import Mathlib.Data.List.Induction
import TelemetryAuth.Proofs.Dictionary
import TelemetryAuth.Proofs.Pipeline.LastExtension

/-!
# The properties of a pipeline

A plan is made by calls (`Setting`), some of which set one property and some many; a key has the
value that was written last (`get?_ofSettings`).  Under these properties of the user lie the
dictionaries that the suppliers return, each over those before it (`result_assemble_of_supply`), and
the first supplier that fails ends the assembly (`result_assemble_of_failure`).

The main result is `properties_layered`: the value of every key of the assembled properties, the
error of an assembly that fails, and that the properties of a built pipeline are the assembled ones.
-/

namespace TelemetryAuth.Pipeline

/-! ### What the user sets -/

/-- A call on a plan before it is built. -/
inductive Setting
  | property (key value : String)
  | properties (all : Properties)
  | extension (extension : Extension)
  | factory (key : String) (factory : ExporterFactory)

/-- A plan after one more call. -/
def Plan.apply (plan : Plan) : Setting → Plan
  | .property key value => plan.setProperty key value
  | .properties all => plan.setProperties all
  | .extension extension => plan.addExtension extension
  | .factory key factory => plan.addFactory key factory

/-- The plan that some calls make. -/
def Plan.ofSettings (environment : Environment) (settings : List Setting) : Plan :=
  settings.foldl apply (.ofEnvironment environment)

/-- The value that a call writes for a property, if it writes one. -/
def Setting.written? (key : String) : Setting → Option String
  | .property own value => if own = key then some value else none
  | .properties all => all.get? key
  | .extension _ | .factory _ _ => none

/-- The value that was written last for a property. -/
def lastWritten? (settings : List Setting) (key : String) : Option String :=
  settings.reverse.findSome? fun setting => setting.written? key

/-- A call writes its own value over the one that is there. -/
theorem get?_apply (plan : Plan) (setting : Setting) (key : String) :
    (plan.apply setting).properties.get? key =
      (setting.written? key).or (plan.properties.get? key) := by
  cases setting with
  | property own value =>
    show (plan.properties.insert own value).get? key = _
    rw [Dictionary.get?_insert, Setting.written?]
    split_ifs with hkey
    · rfl
    · rfl
  | properties all => exact Dictionary.get?_insertMany_toList _ _ _
  | extension extension => rfl
  | factory own factory => rfl

/-- **The properties of the user are those that were written last.** -/
theorem get?_ofSettings (environment : Environment) (settings : List Setting) (key : String) :
    (Plan.ofSettings environment settings).properties.get? key = lastWritten? settings key := by
  unfold Plan.ofSettings
  induction settings using List.reverseRecOn with
  | nil => rfl
  | append_singleton settings setting ih =>
    have hlast : lastWritten? (settings ++ [setting]) key =
        (setting.written? key).or (lastWritten? settings key) := by
      unfold lastWritten?
      rw [List.reverse_append, List.reverse_singleton, List.singleton_append,
        List.findSome?_cons]
      cases setting.written? key <;> rfl
    rw [List.foldl_append, List.foldl_cons, List.foldl_nil, get?_apply, ih, hlast]

/-! ### What the suppliers return -/

variable {user defaults : Properties} {suppliers before later : List (Nat × DefaultsSupplier)}
  {supplier : Nat × DefaultsSupplier} {maps : List Properties} {missing : MissingOption}

/-- Whether suppliers return some dictionaries to a user, one each. -/
def Return (user : Properties) (suppliers : List (Nat × DefaultsSupplier))
    (maps : List Properties) : Prop :=
  suppliers.map (fun supplier => supplier.2 user) = maps.map .ok

theorem return_cons_iff :
    Return user (supplier :: later) maps ↔
      ∃ supplied rest, maps = supplied :: rest ∧ supplier.2 user = .ok supplied ∧
        Return user later rest := by
  unfold Return
  cases maps with
  | nil => simp
  | cons supplied rest => simp

/-- Either all suppliers return a dictionary or there is a first one that does not. -/
theorem return_or_failure (user : Properties) (suppliers : List (Nat × DefaultsSupplier)) :
    (∃ maps, Return user suppliers maps) ∨
      ∃ before supplier later maps missing, suppliers = before ++ supplier :: later ∧
        Return user before maps ∧ supplier.2 user = .error missing := by
  induction suppliers with
  | nil => exact .inl ⟨[], rfl⟩
  | cons first suppliers ih =>
    cases hfirst : first.2 user with
    | error missing => exact .inr ⟨[], first, suppliers, [], missing, rfl, rfl, hfirst⟩
    | ok supplied =>
      rcases ih with ⟨maps, hmaps⟩ | ⟨before, supplier, later, maps, missing, rfl, hmaps, hfails⟩
      · exact .inl ⟨supplied :: maps, return_cons_iff.2 ⟨_, _, rfl, hfirst, hmaps⟩⟩
      · exact .inr ⟨first :: before, supplier, later, supplied :: maps, missing, rfl,
          return_cons_iff.2 ⟨_, _, rfl, hfirst, hmaps⟩, hfails⟩

/-! ### The assembly -/

theorem result_supply_cons (user defaults : Properties) (supplier : Nat × DefaultsSupplier)
    (later : List (Nat × DefaultsSupplier)) :
    (supply user defaults (supplier :: later)).result =
      ((supplier.2 user).mapError SetupError.missingOption).bind fun supplied =>
        (supply user (defaults.insertMany supplied.toList) later).result := by
  obtain ⟨place, supplier⟩ := supplier
  rw [supply]
  simp only [Run.result_bind]
  rfl

/-- The dictionaries of the suppliers are laid over each other. -/
theorem result_supply_of_return (h : Return user suppliers maps) :
    (supply user defaults suppliers).result = .ok (defaults.layered maps) := by
  induction suppliers generalizing defaults maps with
  | nil =>
    obtain rfl : maps = [] := by simpa [Return] using h
    rfl
  | cons supplier later ih =>
    obtain ⟨supplied, rest, rfl, hsupplied, hrest⟩ := return_cons_iff.1 h
    rw [result_supply_cons, hsupplied, Dictionary.layered_cons]
    exact ih hrest

/-- The first supplier that fails ends the assembly. -/
theorem result_supply_of_failure (h : Return user before maps)
    (hfails : supplier.2 user = .error missing) :
    (supply user defaults (before ++ supplier :: later)).result =
      .error (.missingOption missing) := by
  induction before generalizing defaults maps with
  | nil =>
    rw [List.nil_append, result_supply_cons, hfails]
    rfl
  | cons first before ih =>
    obtain ⟨supplied, rest, rfl, hsupplied, hrest⟩ := return_cons_iff.1 h
    rw [List.cons_append, result_supply_cons, hsupplied]
    exact ih hrest

theorem result_assemble (user : Properties) (suppliers : List (Nat × DefaultsSupplier)) :
    (assemble user suppliers).result =
      (supply user .empty suppliers).result.map fun defaults =>
        defaults.insertMany user.toList := by
  unfold assemble
  rw [Run.result_bind]
  cases (supply user .empty suppliers).result <;> rfl

/-- The properties of the user lie over the dictionaries of the suppliers. -/
theorem result_assemble_of_return (h : Return user suppliers maps) :
    ∃ properties, (assemble user suppliers).result = .ok properties ∧
      ∀ key, properties.get? key = (user.get? key).or (Dictionary.topmost? maps key) := by
  refine ⟨(Dictionary.empty.layered maps).insertMany user.toList, ?_, fun key => ?_⟩
  · rw [result_assemble, result_supply_of_return h]
    rfl
  · rw [Dictionary.get?_insertMany_toList, Dictionary.get?_layered, Dictionary.get?_empty,
      Option.or_none]

theorem result_assemble_of_failure (h : Return user before maps)
    (hfails : supplier.2 user = .error missing) :
    (assemble user (before ++ supplier :: later)).result = .error (.missingOption missing) := by
  rw [result_assemble, result_supply_of_failure h hfails]
  rfl

/-- The assembly succeeds exactly if all suppliers do, and there is one outcome. -/
theorem result_assemble_eq_ok_iff {properties : Properties} :
    (assemble user suppliers).result = .ok properties ↔
      ∃ maps, Return user suppliers maps ∧
        ∀ key, properties.get? key = (user.get? key).or (Dictionary.topmost? maps key) := by
  constructor
  · intro hok
    rcases return_or_failure user suppliers with
      ⟨maps, hmaps⟩ | ⟨before, supplier, later, maps, missing, rfl, hmaps, hfails⟩
    · obtain ⟨assembled, hassembled, hvalues⟩ := result_assemble_of_return hmaps
      obtain rfl := Except.ok.inj (hassembled.symm.trans hok)
      exact ⟨maps, hmaps, hvalues⟩
    · cases (result_assemble_of_failure hmaps hfails).symm.trans hok
  · rintro ⟨maps, hmaps, hvalues⟩
    obtain ⟨assembled, hassembled, hvalues'⟩ := result_assemble_of_return hmaps
    obtain rfl : assembled = properties :=
      Dictionary.ext_get? fun key => (hvalues' key).trans (hvalues key).symm
    exact hassembled

/-- The assembly fails exactly if a supplier does, for the reason of the first of them. -/
theorem result_assemble_eq_error_iff {error : SetupError} :
    (assemble user suppliers).result = .error error ↔
      ∃ before supplier later maps missing, suppliers = before ++ supplier :: later ∧
        Return user before maps ∧ supplier.2 user = .error missing ∧
        error = .missingOption missing := by
  constructor
  · intro herror
    rcases return_or_failure user suppliers with
      ⟨maps, hmaps⟩ | ⟨before, supplier, later, maps, missing, rfl, hmaps, hfails⟩
    · obtain ⟨assembled, hassembled, -⟩ := result_assemble_of_return hmaps
      cases hassembled.symm.trans herror
    · have hreason := (result_assemble_of_failure hmaps hfails).symm.trans herror
      exact ⟨before, supplier, later, maps, missing, rfl, hmaps, hfails,
        (Except.error.inj hreason).symm⟩
  · rintro ⟨before, supplier, later, maps, missing, rfl, hmaps, hfails, rfl⟩
    exact result_assemble_of_failure hmaps hfails

/-! ### Builds -/

/-- In a build the suppliers are called in the order of `RunOrder`. -/
theorem assembledBy_eq {extensions : List Extension} {calls : List (Registered DefaultsSupplier)}
    (h : RunOrder (·.suppliers) extensions calls) (user : Properties) :
    assembledBy extensions user = (assemble user (calls.map Registered.pair)).result := by
  obtain rfl := h.unique (runOrder_calls _ extensions)
  rw [assembledBy, callbacks_arranged]

theorem result_build_of_assembly_error (process : Environment) {plan : Plan} {error : SetupError}
    (h : assembledBy plan.extensions plan.properties = .error error) :
    (build process plan).result = .error error := by
  rw [result_build, h]
  rfl

/-- **Properties come in layers.**  Take a plan that is made by any calls.

- A property of the user has the value that these calls wrote last.
- If suppliers return dictionaries one after the other, each key has its value of the user if there
  is one, else that in the last of the dictionaries that has it, else none; and if any supplier
  fails, the assembly fails for the reason of the first of them.
- A build assembles the suppliers of the extensions in the order of `RunOrder`.  It fails where the
  assembly fails, and the properties of a built pipeline are the assembled ones. -/
theorem properties_layered (environment : Environment) (settings : List Setting) :
    let plan := Plan.ofSettings environment settings
    (∀ key, plan.properties.get? key = lastWritten? settings key) ∧
    (∀ suppliers : List (Nat × DefaultsSupplier),
      (∀ properties, (assemble plan.properties suppliers).result = .ok properties ↔
        ∃ maps, Return plan.properties suppliers maps ∧ ∀ key,
          properties.get? key = (lastWritten? settings key).or (Dictionary.topmost? maps key)) ∧
      (∀ error, (assemble plan.properties suppliers).result = .error error ↔
        ∃ before supplier later maps missing, suppliers = before ++ supplier :: later ∧
          Return plan.properties before maps ∧ supplier.2 plan.properties = .error missing ∧
          error = .missingOption missing)) ∧
    ∀ process calls, RunOrder (·.suppliers) plan.extensions calls →
      let assembly := (assemble plan.properties (calls.map Registered.pair)).result
      (∀ error, assembly = .error error → (build process plan).result = .error error) ∧
      (∀ built, (build process plan).result = .ok built → assembly = .ok built.properties) := by
  intro plan
  have huser := get?_ofSettings environment settings
  refine ⟨huser, fun suppliers => ⟨fun properties => ?_, fun error => ?_⟩, ?_⟩
  · simp only [← huser]
    exact result_assemble_eq_ok_iff
  · exact result_assemble_eq_error_iff
  · intro process calls hcalls assembly
    have hassembly : assembledBy plan.extensions plan.properties = assembly :=
      assembledBy_eq hcalls plan.properties
    rw [← hassembly]
    refine ⟨fun error => result_build_of_assembly_error process, fun built hbuilt => ?_⟩
    obtain ⟨-, hproperties, -⟩ := exists_of_built hbuilt
    exact hproperties

/-! ### A plan with overlapping layers

Two extensions supply the same property, the one that was registered first behind the other, and the
user sets a property once alone and once among others. -/

/-- What the extension supplies that was registered first. -/
def lateSupplied : Properties := .ofList [("supplied", "late"), ("user", "late")]

/-- What the other extension supplies. -/
def earlySupplied : Properties := .ofList [("supplied", "early"), ("default", "early")]

/-- The calls that make the plan. -/
def overlappingSettings : List Setting := [
  .property "user" "first",
  .extension ⟨5, [], [fun _ => .ok lateSupplied], [], []⟩,
  .properties (.ofList [("user", "second"), ("bulk", "second")]),
  .extension ⟨-5, [], [fun _ => .ok earlySupplied], [], []⟩]

/-- The suppliers in the order in which they are called. -/
def overlappingCalls : List (Registered DefaultsSupplier) :=
  [⟨-5, 1, 0, fun _ => .ok earlySupplied⟩, ⟨5, 0, 0, fun _ => .ok lateSupplied⟩]

theorem properties_layered_overlapping :
    let plan := Plan.ofSettings (.ofList []) overlappingSettings
    RunOrder (·.suppliers) plan.extensions overlappingCalls ∧
    ∃ properties,
      (assemble plan.properties (overlappingCalls.map Registered.pair)).result = .ok properties ∧
      properties.get? "user" = some "second" ∧ properties.get? "bulk" = some "second" ∧
      properties.get? "supplied" = some "late" ∧ properties.get? "default" = some "early" ∧
      properties.get? "other" = none ∧
      ∀ process built, (build process plan).result = .ok built →
        built.properties = properties := by
  intro plan
  have hcalls : RunOrder (·.suppliers) plan.extensions overlappingCalls := by
    refine ⟨.swap _ _ [], ?_⟩
    simp [overlappingCalls, Registered.Before]
  obtain ⟨-, hassemble, hbuild⟩ := properties_layered (.ofList []) overlappingSettings
  have hreturn : Return plan.properties (overlappingCalls.map Registered.pair)
      [earlySupplied, lateSupplied] := rfl
  obtain ⟨properties, hproperties, -⟩ := result_assemble_of_return hreturn
  obtain ⟨maps, hmaps, hvalues⟩ := ((hassemble _).1 properties).1 hproperties
  obtain rfl : maps = [earlySupplied, lateSupplied] := by
    have hinjective : Function.Injective (Except.ok (ε := MissingOption) (α := Properties)) :=
      fun _ _ => Except.ok.inj
    exact List.map_injective_iff.2 hinjective (hmaps.symm.trans hreturn)
  refine ⟨hcalls, properties, hproperties, ?_, ?_, ?_, ?_, ?_, ?_⟩
  · rw [hvalues]; rfl
  · rw [hvalues]; rfl
  · rw [hvalues]; rfl
  · rw [hvalues]; rfl
  · rw [hvalues]; rfl
  · intro process built hbuilt
    have hassembled := (hbuild process overlappingCalls hcalls).2 built hbuilt
    exact Except.ok.inj (hassembled.symm.trans hproperties)

end TelemetryAuth.Pipeline
