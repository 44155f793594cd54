/-!
# Environments

An environment gives some names a value.  A variable that is set to the empty text is present; who
treats an empty value as missing says so.
-/

namespace TelemetryAuth

/-- The variables that are set, by name. -/
def Environment : Type := String → Option String

namespace Environment

/-- The value of a variable, if it is set. -/
def get? (env : Environment) (name : String) : Option String := env name

/-- The environment of a list of pairs; a later pair wins. -/
def ofList (pairs : List (String × String)) : Environment := fun name =>
  (pairs.reverse.find? (·.1 == name)).map (·.2)

/-- The value of the first variable of a list that is set. -/
def firstPresent? (env : Environment) (names : List String) : Option String :=
  names.findSome? env.get?

/-- Whether any variable of a list is set. -/
def anyPresent (env : Environment) (names : List String) : Bool :=
  names.any fun name => (env.get? name).isSome

end Environment

end TelemetryAuth
