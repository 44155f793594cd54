import TelemetryAuth.Environment
import TelemetryAuth.Properties

/-!
# Options that have no default

The project and the region must be given by the user.  Each is read from an environment variable
first and from a property second, and an empty value counts as missing in both places.  The property
is named after the variable: small letters, and a point for each underscore.
-/

namespace TelemetryAuth

/-- An option that the extension cannot work without. -/
inductive RequiredOption
  | project
  | region
  deriving DecidableEq, Inhabited

/-- The option that is set neither as a variable nor as a property. -/
structure MissingOption where
  option : RequiredOption
  deriving DecidableEq

namespace RequiredOption

/-- All options in their order. -/
def all : List RequiredOption := [.project, .region]

/-- The name of an option, which is also the name of its variable. -/
def name : RequiredOption → String
  | .project => "GOOGLE_CLOUD_PROJECT"
  | .region => "GOOGLE_CLOUD_REGION"

/-- The name for a reader. -/
def title : RequiredOption → String
  | .project => "Google Cloud Project ID"
  | .region => "Google Cloud Region"

/-- The environment variable of an option. -/
def variableName : RequiredOption → String := name

/-- The property of an option. -/
def propertyKey (option : RequiredOption) : String :=
  String.ofList ((Text.lowerAscii option.name.toList).map fun c => if c = '_' then '.' else c)

/-- A value that is present and not empty. -/
def nonEmpty? (value : Option String) : Option String := value.filter (· ≠ "")

/-- The value of an option: the variable if it is not empty, else the property if that is not. -/
def value (option : RequiredOption) (env : Environment) (properties : Properties) :
    Except MissingOption String :=
  match nonEmpty? (env.get? option.variableName) with
  | some value => .ok value
  | none =>
    match nonEmpty? (properties.get? option.propertyKey) with
    | some value => .ok value
    | none => .error ⟨option⟩

/-! ### Small laws -/

/-- Whether neither the variable nor the property of an option has a value that is not empty. -/
structure Unset (option : RequiredOption) (env : Environment) (properties : Properties) : Prop where
  variable_empty : ∀ value, env.get? option.variableName = some value → value = ""
  property_empty : ∀ value, properties.get? option.propertyKey = some value → value = ""

theorem nonEmpty?_eq_none_iff {value : Option String} :
    nonEmpty? value = none ↔ ∀ text, value = some text → text = "" := by
  simp [nonEmpty?]

/-- An option has a value unless it is unset in both places. -/
theorem value_eq_error_iff {option : RequiredOption} {env : Environment} {properties : Properties}
    {error : MissingOption} :
    option.value env properties = .error error ↔
      option.Unset env properties ∧ error = ⟨option⟩ := by
  unfold value
  cases hvariable : nonEmpty? (env.get? option.variableName) with
  | some text =>
    refine ⟨nofun, fun h => ?_⟩
    rw [nonEmpty?_eq_none_iff.2 h.1.variable_empty] at hvariable
    cases hvariable
  | none =>
    cases hproperty : nonEmpty? (properties.get? option.propertyKey) with
    | some text =>
      refine ⟨nofun, fun h => ?_⟩
      rw [nonEmpty?_eq_none_iff.2 h.1.property_empty] at hproperty
      cases hproperty
    | none =>
      have hunset : option.Unset env properties :=
        ⟨nonEmpty?_eq_none_iff.1 hvariable, nonEmpty?_eq_none_iff.1 hproperty⟩
      constructor
      · rintro ⟨⟩
        exact ⟨hunset, rfl⟩
      · rintro ⟨-, rfl⟩
        rfl

theorem not_unset_of_value {option : RequiredOption} {env : Environment} {properties : Properties}
    {text : String} (h : option.value env properties = .ok text) :
    ¬ option.Unset env properties := by
  intro hunset
  cases h.symm.trans (value_eq_error_iff.2 ⟨hunset, rfl⟩)

example : propertyKey .project = "google.cloud.project" := by decide +kernel
example : propertyKey .region = "google.cloud.region" := by decide +kernel

end RequiredOption

namespace MissingOption

/-- The wording of the error; it names both places where the option is looked for. -/
def message (error : MissingOption) : String :=
  "GCP Authentication Extension not configured properly: " ++ error.option.title ++
    " not configured. Configure it by exporting environment variable " ++
    error.option.variableName ++ " or system property " ++ error.option.propertyKey

/-- The diagnostic text of the error. -/
def debugText (error : MissingOption) : String :=
  "ConfigurationError \x7b option: " ++ Text.quote error.option.title ++
    ", env_var: " ++ Text.quote error.option.variableName ++
    ", property: " ++ Text.quote error.option.propertyKey ++ " \x7d"

end MissingOption

end TelemetryAuth
