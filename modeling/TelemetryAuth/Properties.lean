import TelemetryAuth.Dictionary
import TelemetryAuth.Text.Count
import TelemetryAuth.Text.KeyValueList
import TelemetryAuth.Text.Quoted

/-!
# Properties of a pipeline

A pipeline is configured by text values under dotted keys.  Three readers give a value a type:
`bool?`, `milliseconds?` and `keyValueMap`.  Each reads the trimmed value by its own grammar and
answers `none` (or passes a piece over) where the grammar does not fit, so a malformed value never
turns into a wrong one.
-/

namespace TelemetryAuth

/-- The properties of a pipeline: text values under dotted keys. -/
abbrev Properties := Dictionary String

/-- A length of time in whole milliseconds. -/
abbrev Milliseconds := Nat

namespace Properties

/-! ### Reading one value -/

/-- Reads `true` or `false` in any mixture of ASCII capitals and small letters. -/
def readBool? (raw : String) : Option Bool :=
  let word := Text.lowerAscii (Text.trim raw.toList)
  if word = "true".toList then some true
  else if word = "false".toList then some false
  else none

/-- Reads a number of milliseconds that fits into 64 bits. -/
def readMilliseconds? (raw : String) : Option Milliseconds :=
  Text.readCount? Text.maxWord64 (Text.trim raw.toList)

/-- Reads a list of keys and values; a later entry for a key wins. -/
def readKeyValueMap (raw : String) : Dictionary String :=
  Dictionary.ofList (Text.namedKeyValues raw)

/-! ### Typed access -/

/-- The truth value of a property, if it is there and well formed. -/
def bool? (properties : Properties) (key : String) : Option Bool :=
  (properties.get? key).bind readBool?

/-- The length of time of a property, if it is there and well formed. -/
def milliseconds? (properties : Properties) (key : String) : Option Milliseconds :=
  (properties.get? key).bind readMilliseconds?

/-- The keys and values listed in a property; none if it is absent. -/
def keyValueMap (properties : Properties) (key : String) : Dictionary String :=
  match properties.get? key with
  | some raw => readKeyValueMap raw
  | none => .empty

/-! ### Diagnostic text -/

/-- Pairs of texts in quotes between braces. -/
def bracedText (pairs : List (String × String)) : String :=
  let items := pairs.map fun (key, value) => Text.quote key ++ ": " ++ Text.quote value
  "\x7b" ++ ", ".intercalate items ++ "\x7d"

/-- The diagnostic text of properties. -/
def debugText (properties : Properties) : String :=
  "ConfigProperties \x7b values: " ++ bracedText properties.toList ++ " \x7d"

/-! ### Keys -/

/-- The key of the name that logs and traces are reported under. -/
def serviceNameKey : String := "otel.service.name"

end Properties

end TelemetryAuth
