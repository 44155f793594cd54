import TelemetryAuth.Text.Blank
import TelemetryAuth.Text.Split

/-!
# Lists of the form `k1=v1,k2=v2`

Headers and resource attributes are written as pieces between commas, each with a key and a value
around its first equals sign.  Blanks around keys and values do not count.  A piece without an
equals sign says nothing and is passed over.
-/

namespace TelemetryAuth.Text

/-- The key and the value of one piece, both trimmed; `none` without an equals sign. -/
def keyValue? (piece : List Char) : Option (String × String) :=
  (splitFirst '=' piece).map fun (key, value) =>
    (String.ofList (trim key), String.ofList (trim value))

/-- The keys and values of a list in the order in which they are written. -/
def keyValues (text : String) : List (String × String) :=
  (splitAll ',' text.toList).filterMap keyValue?

/-- The keys and values of a list, without those whose key is empty. -/
def namedKeyValues (text : String) : List (String × String) :=
  (keyValues text).filter fun entry => entry.1 ≠ ""

end TelemetryAuth.Text
