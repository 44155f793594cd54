import TelemetryAuth.Environment
import TelemetryAuth.Error
import TelemetryAuth.Exporter.Basic

/-!
# Compression that a process asks for

A variable of the process for traces alone, or else a general one, may ask for compressed calls.
The exporters compress nothing, so any value of the variable is refused: an algorithm that is known
for want of support, and a name that is not known as such.
-/

namespace TelemetryAuth

/-- A compression algorithm. -/
inductive Compression
  | gzip
  | zstd
  deriving DecidableEq

namespace Compression

/-- The variable of the process that asks for compressed traces. -/
def tracesVariable : String := "OTEL_EXPORTER_OTLP_TRACES_COMPRESSION"

/-- The variable of the process that asks for compression in general. -/
def generalVariable : String := "OTEL_EXPORTER_OTLP_COMPRESSION"

/-- The name of an algorithm. -/
def name : Compression → String
  | .gzip => "gzip"
  | .zstd => "zstd"

/-- The algorithm of a name, which is written in small letters. -/
def ofName? (name : String) : Option Compression :=
  [gzip, zstd].find? fun algorithm => algorithm.name = name

/-- The refusal of an algorithm by a transport. -/
def refusal (algorithm : Compression) : Transport → ExporterFault
  | .grpc => .unavailableCompression (algorithm.name ++ "-tonic") algorithm.name
  | .http =>
    .unknownCompression (algorithm.name ++ " compression requested but " ++ algorithm.name ++
      "-http feature not enabled")

/-- Checks that a process does not ask for compression. -/
def check (process : Environment) (transport : Transport) : Except SetupError Unit :=
  match process.firstPresent? [tracesVariable, generalVariable] with
  | none => .ok ()
  | some name =>
    .error <| .ofExporterFault <|
      match ofName? name with
      | some algorithm => algorithm.refusal transport
      | none => .unknownCompression name

end Compression

end TelemetryAuth
