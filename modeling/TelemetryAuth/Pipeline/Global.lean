import TelemetryAuth.Log.Span
import TelemetryAuth.Pipeline.Build

/-!
# A pipeline that is used by the whole process

Once a pipeline is installed for the process, what threads log passes the filter of the pipeline's
logging settings and is written in the chosen format.  A second installation changes nothing; it is
answered by a warning that passes the filter like any entry.
-/

namespace TelemetryAuth.Pipeline

/-- The entry that records that an earlier installation stays. -/
def secondInstallEntry : Log.Entry :=
  .withMessage .warn "gcp_otlp_auth::trace" "Global subscriber already installed"
    [("error", .shown "a global default trace dispatcher has already been set")]

/-- Whether a character may begin a command to a terminal. -/
def commandsTerminal (c : Char) : Bool :=
  "\x07\x08\x0c\x1b\x7f".toList.contains c || (0x80 ≤ c.toNat && c.toNat ≤ 0x9F)

/-- A message for people to read: instead of a character that may begin a command to a terminal, its
number is written. -/
def harmless (message : String) : String :=
  String.ofList <| message.toList.flatMap fun c =>
    if !commandsTerminal c then [c]
    else
      let digits := Text.hexDigits c.toNat
      if c.toNat < 0x80 then ['\\', 'x'] ++ List.replicate (2 - digits.length) '0' ++ digits
      else ['\\', 'u', '\x7b'] ++ digits ++ ['\x7d']

/-- What a process has logged after its pipeline was installed. -/
structure GlobalSession where
  settings : LogSettings
  filter : Log.Filter
  recorder : Log.Recorder

namespace GlobalSession

/-- The session of a thread in a process that installs its pipeline once or twice before. -/
def run (process : Environment) (built : Built) (twice : Bool) (steps : List Log.Step) :
    GlobalSession :=
  let settings := LogSettings.ofProperties built.properties
  let filter := Log.Filter.ofSettings process settings
  let tracer := Log.Tracer.ofProcess process settings.serviceName
  let steps := if twice then .log secondInstallEntry :: steps else steps
  ⟨settings, filter, .run filter tracer steps⟩

/-- Whether the warning of a second installation has been written. -/
def warned (session : GlobalSession) : Bool :=
  session.recorder.lines.any fun line => line.entry == secondInstallEntry

/-- The messages that have been written. -/
def messages (session : GlobalSession) : List String :=
  session.recorder.lines.filterMap fun line =>
    match line.entry.fields.find? (·.1 == Log.Entry.messageName) with
    | some (_, .text message) => some message
    | some (_, .shown message) => some message
    | _ => none

/-- Whether a text stands in what has been written. -/
def shows (session : GlobalSession) (text : String) : Bool :=
  text = "" || session.messages.any fun message =>
    Text.occursIn text.toList (harmless message).toList

/-- Whether anything has been written: a line, or the end of a span. -/
def wrote (session : GlobalSession) : Bool :=
  !session.recorder.lines.isEmpty || !session.recorder.ended.isEmpty

end GlobalSession

end TelemetryAuth.Pipeline
