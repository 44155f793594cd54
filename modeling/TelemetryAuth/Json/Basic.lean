import TelemetryAuth.Json.Number

/-!
# JSON values

An object lists its members in the order in which they are written.
-/

namespace TelemetryAuth

/-- A JSON value. -/
inductive Json
  | null
  | bool (value : Bool)
  | number (value : Json.Number)
  | string (value : String)
  | array (items : List Json)
  | object (members : List (String × Json))
  deriving Inhabited

namespace Json

/-- An integer as a JSON value. -/
def int (n : Int) : Json := .number (.integer n)

/-- The value of a member; the last one of that name. -/
def member? (name : String) : Json → Option Json
  | .object members => (members.reverse.find? (·.1 == name)).map (·.2)
  | _ => none

end Json

end TelemetryAuth
