import TelemetryAuth.Decimal.Read
import TelemetryAuth.Environment

/-!
# Which spans are recorded

A variable of the process chooses between recording all spans and recording none, or it asks for a
share of them, which a second variable names.  Which spans belong to a share is left to chance, so
the likelier outcome stands for it: all for more than a half, and none otherwise.

Recorded spans wait for an exporter in a queue.  If the process sets up a queue without room, no
span reaches an exporter (`Sampling.ofExport`).
-/

namespace TelemetryAuth

/-- Which spans are recorded. -/
inductive Sampling
  | all
  | nothing
  deriving DecidableEq

namespace Sampling

/-- The variable of the process that chooses what is recorded. -/
def variableName : String := "OTEL_TRACES_SAMPLER"

/-- The variable of the process that names a share. -/
def shareVariableName : String := "OTEL_TRACES_SAMPLER_ARG"

/-- What a share lets be recorded, in all likelihood. -/
def ofShare (share : Float) : Sampling := if share > 0.5 then .all else .nothing

/-- What is recorded in a process.  A share that cannot be read is the whole, and so is a choice
that is not known. -/
def ofProcess (process : Environment) : Sampling :=
  match process.get? variableName with
  | some "always_off" => .nothing
  | some "parentbased_always_off" => .nothing
  | some "traceidratio" => named
  | some "parentbased_traceidratio" => named
  | _ => .all
where
  named : Sampling :=
    ofShare (((process.get? shareVariableName).bind Decimal.readFloat?).getD 1.0)

/-- The variable of the process that sets how many spans may wait for an exporter. -/
def queueVariableName : String := "OTEL_BSP_MAX_QUEUE_SIZE"

/-- What reaches an exporter of a process: what is recorded, if it may wait. -/
def ofExport (process : Environment) : Sampling :=
  let size := (process.get? queueVariableName).bind fun size =>
    Text.readCount? Text.maxWord64 size.toList
  if size = some 0 then .nothing else ofProcess process

/-- The spans of a list that are recorded. -/
def recorded {α : Type} (sampling : Sampling) (spans : List α) : List α :=
  match sampling with
  | .all => spans
  | .nothing => []

end Sampling

end TelemetryAuth
