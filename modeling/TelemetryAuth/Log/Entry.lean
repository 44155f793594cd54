import TelemetryAuth.Decimal.Text
import TelemetryAuth.Dictionary
import TelemetryAuth.Json.Basic
import TelemetryAuth.Text.Quoted

/-!
# Log entries

An entry has a level, a target, and fields in the order in which they are recorded.  The message is
a field like any other, under the name `message`.  A field that has no type of its own in the log
(`shown`) is recorded as the text that its printer gives.

`Entry.object` lays an entry out for a collector that reads the severity at the root: `severity`,
`target` and the name of the innermost span stand beside the fields, and a field of one of these
names takes its place.
-/

namespace TelemetryAuth.Log

/-- How important an entry is, the most important first. -/
inductive Level
  | error
  | warn
  | info
  | debug
  | trace
  deriving DecidableEq, Inhabited

namespace Level

/-- The place of a level: the more detail, the larger. -/
def rank : Level → Nat
  | .error => 1
  | .warn => 2
  | .info => 3
  | .debug => 4
  | .trace => 5

/-- The severity that a collector knows; it has none below `DEBUG`. -/
def severity : Level → String
  | .error => "ERROR"
  | .warn => "WARNING"
  | .info => "INFO"
  | .debug => "DEBUG"
  | .trace => "DEBUG"

end Level

/-- The value of a field. -/
inductive Value
  | text (value : String)
  | integer (value : Int)
  | truth (value : Bool)
  | shown (printed : String)
  deriving DecidableEq

namespace Value

/-- The JSON value that a field is written as. -/
def json : Value → Json
  | .text value => .string value
  | .integer value => .int value
  | .truth value => .bool value
  | .shown printed => .string printed

/-- A floating-point number, which is recorded as its decimal text. -/
def ofFloat (value : Float) : Value := .shown (Decimal.textOfFloat .log value)

/-- A text that is recorded between quotes. -/
def ofQuoted (value : String) : Value := .shown (Text.quote value)

/-- Bytes, which are recorded as pairs of hexadecimal digits between brackets. -/
def ofBytes (bytes : List UInt8) : Value :=
  let pair (byte : UInt8) : String :=
    let digits := Text.hexDigits byte.toNat
    String.ofList (List.replicate (2 - digits.length) '0' ++ digits)
  .shown ("[" ++ " ".intercalate (bytes.map pair) ++ "]")

end Value

/-- Something that is logged. -/
structure Entry where
  level : Level
  target : String
  fields : List (String × Value)
  deriving DecidableEq

namespace Entry

/-- The name of the field that holds the message. -/
def messageName : String := "message"

/-- An entry with a message and further fields. -/
def withMessage (level : Level) (target message : String) (fields : List (String × Value)) :
    Entry :=
  ⟨level, target, (messageName, .shown message) :: fields⟩

/-- What stands at the root beside the fields. -/
def root (entry : Entry) (timestamp span : Option String) : List (String × Value) :=
  [("severity", Value.text entry.level.severity)] ++
    (timestamp.toList.map fun time => ("timestamp", Value.text time)) ++
    [("target", Value.text entry.target)] ++
    (span.toList.map fun name => ("span", Value.text name))

/-- The entry as a dictionary; a field takes the place of what stands at the root under its name. -/
def object (entry : Entry) (timestamp span : Option String) : Dictionary Value :=
  Dictionary.ofList (entry.root timestamp span ++ entry.fields)

/-- The entry as a JSON object with sorted names. -/
def json (entry : Entry) (timestamp span : Option String) : Json :=
  .object ((entry.object timestamp span).toList.map fun (name, value) => (name, value.json))

end Entry

end TelemetryAuth.Log
