import TelemetryAuth.Dictionary

/-!
# Resources

A resource describes the program that emits telemetry by attributes, one value per key.  A resource
is changed in one way only: attributes are set one after the other, and the last value of a key
stays.
-/

namespace TelemetryAuth

/-- The value of an attribute. -/
inductive AttributeValue
  | text (value : String)
  | truth (value : Bool)
  | integer (value : Int)
  | texts (values : List String)
  deriving DecidableEq, Inhabited

/-- The attributes of the program that emits telemetry. -/
abbrev Resource := Dictionary AttributeValue

namespace Resource

/-- Sets attributes on top of a resource; of two values for one key the later stays. -/
def setAll (resource : Resource) (attributes : List (String × AttributeValue)) : Resource :=
  resource.insertMany attributes

/-- Sets the attributes of another resource on top of a resource. -/
def merge (resource other : Resource) : Resource := resource.setAll other.toList

/-- Texts as attributes. -/
def ofTexts (pairs : List (String × String)) : List (String × AttributeValue) :=
  pairs.map fun (key, value) => (key, .text value)

end Resource

end TelemetryAuth
