import TelemetryAuth.Credential.KeyFile

/-!
# Where the project of a credential comes from

Three functions decide in turn whether a project is missing.  `fallbackProject?` asks for the option
if no project is reported, `Found.withProject` keeps the reported project unless there is another,
and `Provider.create` refuses a project that is empty.  So the first of them takes an empty project
for a project and the last does not: an empty project keeps the option from being asked, and then
there is no provider (`empty_project_hides_option`).

The main result is `created_iff_project`: with this exception there is a provider if and only if a
project is reported or the option resolves.
-/

namespace TelemetryAuth

/-! ### Options that resolve -/

namespace RequiredOption

variable {option : RequiredOption} {env : Environment} {properties : Properties} {text : String}

/-- An option resolves to a text: the variable has it or, if the variable is absent or empty, the
property has it, and the text is not empty. -/
structure Resolves (option : RequiredOption) (env : Environment) (properties : Properties)
    (text : String) : Prop where
  ne_empty : text ≠ ""
  found : env.get? option.variableName = some text ∨
    (∀ value, env.get? option.variableName = some value → value = "") ∧
      properties.get? option.propertyKey = some text

theorem nonEmpty?_eq_some_iff {value : Option String} :
    nonEmpty? value = some text ↔ value = some text ∧ text ≠ "" := by
  rw [nonEmpty?, Option.filter_eq_some_iff, decide_eq_true_iff]

theorem value_eq_ok_iff :
    option.value env properties = .ok text ↔ option.Resolves env properties text := by
  unfold value
  cases hvariable : nonEmpty? (env.get? option.variableName) with
  | some first =>
    obtain ⟨hfirst, hne⟩ := nonEmpty?_eq_some_iff.1 hvariable
    constructor
    · rintro ⟨⟩
      exact ⟨hne, .inl hfirst⟩
    · rintro ⟨-, hfound | ⟨habsent, -⟩⟩
      · rw [hfirst] at hfound
        rw [Option.some.inj hfound]
      · exact absurd (habsent first hfirst) hne
  | none =>
    have habsent := nonEmpty?_eq_none_iff.1 hvariable
    cases hproperty : nonEmpty? (properties.get? option.propertyKey) with
    | some second =>
      obtain ⟨hsecond, hne⟩ := nonEmpty?_eq_some_iff.1 hproperty
      constructor
      · rintro ⟨⟩
        exact ⟨hne, .inr ⟨habsent, hsecond⟩⟩
      · rintro ⟨htext, hfound | ⟨-, hfound⟩⟩
        · exact absurd (habsent text hfound) htext
        · rw [hsecond] at hfound
          rw [Option.some.inj hfound]
    | none =>
      refine ⟨nofun, ?_⟩
      rintro ⟨htext, hfound | ⟨-, hfound⟩⟩
      · exact absurd (habsent text hfound) htext
      · exact absurd (nonEmpty?_eq_none_iff.1 hproperty text hfound) htext

end RequiredOption

/-! ### Providers for a reported project -/

theorem Provider.create_eq_of_ne_empty {project : String} (backend : Backend) (h : project ≠ "") :
    create (some project) backend = .ok ⟨backend, ⟨project, none, false⟩, 0⟩ := by
  have hproject : RequiredOption.nonEmpty? (some project) = some project :=
    RequiredOption.nonEmpty?_eq_some_iff.2 ⟨rfl, h⟩
  rw [create, Credential.ofReported, hproject]
  rfl

theorem Provider.create_eq_of_missing {reported : Option String} (backend : Backend)
    (h : ∀ project, reported = some project → project = "") :
    create reported backend = .error (.noIdentity Credential.noProject) := by
  rw [create, Credential.ofReported, RequiredOption.nonEmpty?_eq_none_iff.2 h]
  rfl

namespace KeyFile

variable {reported : Option String} {process : Environment} {properties : Properties}
  {project : String}

/-- The project that a credential is billed to: the one that it reports, unless that is empty, or
if it reports none the one that the option resolves to. -/
inductive Billed (process : Environment) (properties : Properties) : Option String → String → Prop
  | reported {project : String} (ne_empty : project ≠ "") :
    Billed process properties (some project) project
  | option {project : String}
      (resolves : RequiredOption.Resolves .project process properties project) :
    Billed process properties none project

theorem Billed.ne_empty (h : Billed process properties reported project) : project ≠ "" := by
  cases h with
  | reported ne_empty => exact ne_empty
  | option resolves => exact resolves.ne_empty

theorem Billed.unique {other : String} (h : Billed process properties reported project)
    (hother : Billed process properties reported other) : project = other := by
  cases h with
  | reported => cases hother; rfl
  | option resolves =>
    cases hother with
    | option hother =>
      have hvalue := RequiredOption.value_eq_ok_iff.2 resolves
      rw [RequiredOption.value_eq_ok_iff.2 hother] at hvalue
      exact (Except.ok.inj hvalue).symm

/-- A credential is billed to a project unless it reports an empty one, or reports none and the
option does not resolve. -/
theorem exists_billed_iff :
    (∃ project, Billed process properties reported project) ↔
      reported ≠ some "" ∧ ((∃ project, reported = some project ∧ project ≠ "") ∨
        ∃ project, RequiredOption.project.Resolves process properties project) := by
  constructor
  · rintro ⟨project, hne | hresolves⟩
    · exact ⟨fun hempty => hne (Option.some.inj hempty), .inl ⟨project, rfl, hne⟩⟩
    · exact ⟨nofun, .inr ⟨project, hresolves⟩⟩
  · rintro ⟨hne, hproject | ⟨project, hresolves⟩⟩
    · obtain ⟨project, rfl, hproject⟩ := hproject
      exact ⟨project, .reported hproject⟩
    · cases reported with
      | none => exact ⟨project, .option hresolves⟩
      | some own => exact ⟨own, .reported fun hempty => hne (congrArg some hempty)⟩

/-- A provider for a credential over a back end, after the option has been asked. -/
def Found.created (found : Found) (process : Environment) (properties : Properties)
    (backend : Backend) : Except CredentialError Provider :=
  Provider.create (found.withFallback process properties).project backend

/-- Over the back end of a key file it is the provider for the key file. -/
theorem Found.created_backend (found : Found) :
    found.created process properties backend = (found.withFallback process properties).provider :=
  rfl

/-- The project that is in place after the option has been asked. -/
theorem withFallback_project (found : Found) :
    (found.withFallback process properties).project =
      match found.project with
      | some project => some project
      | none => (RequiredOption.project.value process properties).toOption := by
  unfold Found.withFallback Found.withProject fallbackProject?
  cases found.project with
  | some project => rfl
  | none => simp

theorem withFallback_project_eq_some_iff (found : Found) (h : project ≠ "") :
    (found.withFallback process properties).project = some project ↔
      Billed process properties found.project project := by
  rw [withFallback_project]
  cases found.project with
  | some own =>
    constructor
    · rintro ⟨⟩
      exact .reported h
    · rintro ⟨⟩
      rfl
  | none =>
    constructor
    · intro hproject
      cases hvalue : RequiredOption.project.value process properties with
      | error error =>
        rw [hvalue] at hproject
        cases hproject
      | ok text =>
        rw [hvalue] at hproject
        obtain rfl : text = project := Option.some.inj hproject
        exact .option (RequiredOption.value_eq_ok_iff.1 hvalue)
    · rintro (_ | hresolves)
      rw [RequiredOption.value_eq_ok_iff.2 hresolves]
      rfl

/-- There is a provider for the project that the credential is billed to. -/
theorem Found.created_of_billed (found : Found) (backend : Backend)
    (h : Billed process properties found.project project) :
    found.created process properties backend = .ok ⟨backend, ⟨project, none, false⟩, 0⟩ := by
  rw [created, (withFallback_project_eq_some_iff found h.ne_empty).2 h]
  exact Provider.create_eq_of_ne_empty backend h.ne_empty

/-- There is none if there is no such project. -/
theorem Found.created_of_not_billed (found : Found) (backend : Backend)
    (h : ∀ project, ¬ Billed process properties found.project project) :
    found.created process properties backend = .error (.noIdentity Credential.noProject) := by
  apply Provider.create_eq_of_missing
  intro project hproject
  by_cases hempty : project = ""
  · exact hempty
  · exact absurd ((withFallback_project_eq_some_iff found hempty).1 hproject) (h project)

/-- **Reported, or else resolved.** For every credential and back end, and whatever the environment
and the properties are:

- there is a provider if and only if the reported project is not empty or the option resolves, with
  one exception: an empty project is reported;
- the provider bills the reported project, or if none is reported the one that the option resolves
  to, and no token has been fetched for it;
- in all other cases the error says that there is no identity for want of a project. -/
theorem created_iff_project (found : Found) (process : Environment) (properties : Properties)
    (backend : Backend) :
    ((∃ provider, found.created process properties backend = .ok provider) ↔
      found.project ≠ some "" ∧ ((∃ project, found.project = some project ∧ project ≠ "") ∨
        ∃ project, RequiredOption.project.Resolves process properties project)) ∧
    (∀ provider, found.created process properties backend = .ok provider ↔
      ∃ project, Billed process properties found.project project ∧
        provider = ⟨backend, ⟨project, none, false⟩, 0⟩) ∧
    ∀ error, found.created process properties backend = .error error ↔
      (∀ project, ¬ Billed process properties found.project project) ∧
        error = .noIdentity Credential.noProject := by
  rw [← exists_billed_iff]
  by_cases h : ∃ project, Billed process properties found.project project
  · obtain ⟨project, hproject⟩ := h
    rw [found.created_of_billed backend hproject]
    refine ⟨iff_of_true ⟨_, rfl⟩ ⟨project, hproject⟩, fun provider => ?_, fun error => ?_⟩
    · constructor
      · rintro ⟨⟩
        exact ⟨project, hproject, rfl⟩
      · rintro ⟨other, hother, rfl⟩
        rw [hproject.unique hother]
    · refine iff_of_false nofun ?_
      rintro ⟨hnone, -⟩
      exact hnone project hproject
  · have hnone := not_exists.1 h
    rw [found.created_of_not_billed backend hnone]
    refine ⟨iff_of_false ?_ h, fun provider => ?_, fun error => ?_⟩
    · rintro ⟨provider, ⟨⟩⟩
    · refine iff_of_false nofun ?_
      rintro ⟨project, hproject, -⟩
      exact hnone project hproject
    · constructor
      · rintro ⟨⟩
        exact ⟨hnone, rfl⟩
      · rintro ⟨-, rfl⟩
        rfl

/-- An environment that names a project. -/
def projectEnvironment : Environment := .ofList [("GOOGLE_CLOUD_PROJECT", "proj-env")]

/-- A credential that reports an empty project keeps the option from being asked: the option
resolves, but there is no provider. -/
theorem empty_project_hides_option :
    RequiredOption.project.Resolves projectEnvironment .empty "proj-env" ∧
    (Found.mk (some "") []).created projectEnvironment .empty backend =
      .error (.noIdentity Credential.noProject) := by
  have hvalue : RequiredOption.project.value projectEnvironment .empty = .ok "proj-env" := rfl
  refine ⟨RequiredOption.value_eq_ok_iff.1 hvalue, ?_⟩
  apply Provider.create_eq_of_missing
  rintro project ⟨⟩
  rfl

end KeyFile

end TelemetryAuth
