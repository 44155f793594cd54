import TelemetryAuth.Platform
import TelemetryAuth.Proofs.Dictionary

/-!
# What the environment says about the platform

Nine variables decide on the attributes of a platform.  Six of them are the marks of three
platforms, and the first platform with a mark is the one that counts (`Runs`).  Three attributes
more have a list of variables each, over all platforms, and the first variable of a list that is set
gives the value, even if it is empty (`Environment.FirstSet`).  So leftovers of another platform may
add to the attributes of the one that counts.

`Runs` and `Attribute` say in terms of the environment alone which attributes follow from it: they
write out the variables and the values, and name nothing of the detection.  The resource of the
environment holds these attributes and no others, and without a mark it is empty.  The main result
is `resource_follows_variables`.
-/

namespace TelemetryAuth

/-! ### Variables that are set -/

namespace Environment

variable {env other : Environment} {names : List String} {value : String}

/-- Some variable of a list is set. -/
def AnySet (env : Environment) (names : List String) : Prop :=
  ∃ name ∈ names, env.get? name ≠ none

/-- The first variable of a list that is set has a value. -/
def FirstSet (env : Environment) (names : List String) (value : String) : Prop :=
  ∃ earlier name later, names = earlier ++ name :: later ∧ env.get? name = some value ∧
    ∀ missing ∈ earlier, env.get? missing = none

theorem firstPresent?_eq_some_iff :
    env.firstPresent? names = some value ↔ env.FirstSet names value :=
  List.findSome?_eq_some_iff

theorem anyPresent_iff : env.anyPresent names = true ↔ env.AnySet names := by
  simp only [anyPresent, AnySet, List.any_eq_true, Option.isSome_iff_ne_none]

theorem firstPresent?_congr (h : ∀ name ∈ names, env.get? name = other.get? name) :
    env.firstPresent? names = other.firstPresent? names := by
  induction names with
  | nil => rfl
  | cons name names ih =>
    obtain ⟨hname, hnames⟩ := List.forall_mem_cons.1 h
    have htail : names.findSome? env.get? = names.findSome? other.get? := ih hnames
    rw [firstPresent?, firstPresent?, List.findSome?_cons, List.findSome?_cons, hname, htail]

theorem anyPresent_congr (h : ∀ name ∈ names, env.get? name = other.get? name) :
    env.anyPresent names = other.anyPresent names := by
  rw [Bool.eq_iff_iff, anyPresent_iff, anyPresent_iff]
  constructor
  · rintro ⟨name, hmem, hname⟩
    exact ⟨name, hmem, h name hmem ▸ hname⟩
  · rintro ⟨name, hmem, hname⟩
    exact ⟨name, hmem, h name hmem ▸ hname⟩

end Environment

namespace Platform

open Environment Dictionary

variable {env other : Environment} {label : String}

/-! ### The platform that counts -/

/-- The platform that counts in an environment, by the value of its attribute: the first that has a
mark. -/
inductive Runs (env : Environment) : String → Prop
  | cloudRun (run : env.AnySet ["K_SERVICE", "K_REVISION"]) : Runs env "gcp_cloud_run"
  | cloudFunctions (run : ¬ env.AnySet ["K_SERVICE", "K_REVISION"])
      (functions : env.AnySet ["FUNCTION_NAME", "FUNCTION_TARGET"]) :
      Runs env "gcp_cloud_functions"
  | appEngine (run : ¬ env.AnySet ["K_SERVICE", "K_REVISION"])
      (functions : ¬ env.AnySet ["FUNCTION_NAME", "FUNCTION_TARGET"])
      (engine : env.AnySet ["GAE_SERVICE", "GAE_VERSION"]) : Runs env "gcp_app_engine"

/-- The variables that mark a platform. -/
def markVariables : List String :=
  ["K_SERVICE", "K_REVISION", "FUNCTION_NAME", "FUNCTION_TARGET", "GAE_SERVICE", "GAE_VERSION"]

/-- The marks are those of the three platforms. -/
theorem anySet_markVariables_iff :
    env.AnySet markVariables ↔ env.AnySet ["K_SERVICE", "K_REVISION"] ∨
      env.AnySet ["FUNCTION_NAME", "FUNCTION_TARGET"] ∨
      env.AnySet ["GAE_SERVICE", "GAE_VERSION"] := by
  have hmarks : markVariables = ["K_SERVICE", "K_REVISION"] ++
      (["FUNCTION_NAME", "FUNCTION_TARGET"] ++ ["GAE_SERVICE", "GAE_VERSION"]) := rfl
  unfold AnySet
  rw [hmarks]
  simp only [List.mem_append, or_and_right, exists_or]

/-- Where a platform has a mark, one counts. -/
theorem exists_runs_iff : (∃ label, Runs env label) ↔ env.AnySet markVariables := by
  rw [anySet_markVariables_iff]
  constructor
  · rintro ⟨label, hruns⟩
    cases hruns with
    | cloudRun run => exact .inl run
    | cloudFunctions run functions => exact .inr (.inl functions)
    | appEngine run functions engine => exact .inr (.inr engine)
  · intro hmarked
    by_cases hrun : env.AnySet ["K_SERVICE", "K_REVISION"]
    · exact ⟨_, .cloudRun hrun⟩
    by_cases hfunctions : env.AnySet ["FUNCTION_NAME", "FUNCTION_TARGET"]
    · exact ⟨_, .cloudFunctions hrun hfunctions⟩
    · exact ⟨_, .appEngine hrun hfunctions ((hmarked.resolve_left hrun).resolve_left hfunctions)⟩

/-- The platform that is detected is the one that counts. -/
theorem detect?_of_runs (h : Runs env label) :
    ∃ platform : Platform, detect? env = some platform ∧ platform.label = label := by
  have hpresent : ∀ {names}, env.AnySet names → env.anyPresent names = true :=
    fun hset => anyPresent_iff.2 hset
  have habsent : ∀ {names}, ¬ env.AnySet names → env.anyPresent names = false :=
    fun hunset => Bool.eq_false_iff.2 fun hset => hunset (anyPresent_iff.1 hset)
  unfold detect?
  cases h with
  | cloudRun run =>
    refine ⟨.cloudRun, List.find?_eq_some_iff_append.2 ⟨hpresent run, [], _, rfl, nofun⟩, rfl⟩
  | cloudFunctions run functions =>
    refine ⟨.cloudFunctions, List.find?_eq_some_iff_append.2
      ⟨hpresent functions, [.cloudRun], _, rfl, ?_⟩, rfl⟩
    simp [markers, habsent run]
  | appEngine run functions engine =>
    refine ⟨.appEngine, List.find?_eq_some_iff_append.2
      ⟨hpresent engine, [.cloudRun, .cloudFunctions], _, rfl, ?_⟩, rfl⟩
    simp [markers, habsent run, habsent functions]

/-- No platform is detected without a mark. -/
theorem detect?_of_unmarked (h : ¬ env.AnySet markVariables) : detect? env = none := by
  rw [anySet_markVariables_iff, not_or, not_or] at h
  obtain ⟨hrun, hfunctions, hengine⟩ := h
  refine List.find?_eq_none.2 fun platform _ hpresent => ?_
  rw [anyPresent_iff] at hpresent
  cases platform with
  | cloudRun => exact hrun hpresent
  | cloudFunctions => exact hfunctions hpresent
  | appEngine => exact hengine hpresent

/-! ### The attributes that follow -/

/-- The attributes that follow from an environment where a platform counts. -/
inductive Attribute (env : Environment) (label : String) : String → AttributeValue → Prop
  | provider : Attribute env label "cloud.provider" (.text "gcp")
  | platform : Attribute env label "cloud.platform" (.text label)
  | region {value : String}
      (first : env.FirstSet ["CLOUD_RUN_REGION", "FUNCTION_REGION", "GAE_REGION"] value) :
      Attribute env label "cloud.region" (.text value)
  | service {value : String}
      (first : env.FirstSet ["K_SERVICE", "FUNCTION_NAME", "GAE_SERVICE"] value) :
      Attribute env label "faas.name" (.text value)
  | revision {value : String} (first : env.FirstSet ["K_REVISION", "GAE_VERSION"] value) :
      Attribute env label "faas.version" (.text value)

theorem mem_detail_iff {key own : String} {names : List String} {value : AttributeValue} :
    (own, value) ∈ detail env key names ↔
      own = key ∧ ∃ text, value = .text text ∧ env.FirstSet names text := by
  unfold detail
  cases hfirst : env.firstPresent? names with
  | none =>
    have hnone : ∀ text, ¬ env.FirstSet names text := by
      intro text htext
      cases hfirst.symm.trans (firstPresent?_eq_some_iff.2 htext)
    simp [hnone]
  | some first =>
    have hiff : ∀ text, env.FirstSet names text ↔ text = first := by
      intro text
      rw [← firstPresent?_eq_some_iff, hfirst, Option.some.injEq, eq_comm]
    simp [hiff]

theorem keys_detail_sublist (env : Environment) (key : String) (names : List String) :
    ((detail env key names).map (·.1)).Sublist [key] := by
  unfold detail
  cases env.firstPresent? names with
  | none => exact List.nil_sublist _
  | some value => exact List.Sublist.refl _

/-- **The resource of a marked environment has the attributes that follow, and no others.** -/
theorem get?_resource_eq_some_iff (h : Runs env label) {key : String} {value : AttributeValue} :
    (resource env).get? key = some value ↔ Attribute env label key value := by
  obtain ⟨platform, hdetect, rfl⟩ := detect?_of_runs h
  unfold resource
  rw [hdetect]
  have hkeys : (([("cloud.provider", AttributeValue.text "gcp"),
      ("cloud.platform", .text platform.label)] ++ detail env "cloud.region" regionVariables ++
      detail env "faas.name" serviceVariables ++
      detail env "faas.version" revisionVariables).map (·.1)).Nodup := by
    simp only [List.map_append]
    refine List.Nodup.sublist (((List.Sublist.refl _).append (keys_detail_sublist _ _ _)).append
      (keys_detail_sublist _ _ _) |>.append (keys_detail_sublist _ _ _)) ?_
    show List.Nodup ["cloud.provider", "cloud.platform", "cloud.region", "faas.name",
      "faas.version"]
    decide
  rw [get?_ofList_eq_some_iff, lastOf_iff_mem hkeys]
  simp only [List.mem_append, mem_detail_iff, List.mem_cons, Prod.mk.injEq, List.not_mem_nil,
    or_false]
  constructor
  · rintro ((((⟨rfl, rfl⟩ | ⟨rfl, rfl⟩) | ⟨rfl, text, rfl, hfirst⟩) | ⟨rfl, text, rfl, hfirst⟩) |
      ⟨rfl, text, rfl, hfirst⟩)
    · exact .provider
    · exact .platform
    · exact .region hfirst
    · exact .service hfirst
    · exact .revision hfirst
  · intro hattribute
    cases hattribute with
    | provider => exact .inl (.inl (.inl (.inl ⟨rfl, rfl⟩)))
    | platform => exact .inl (.inl (.inl (.inr ⟨rfl, rfl⟩)))
    | region hfirst => exact .inl (.inl (.inr ⟨rfl, _, rfl, hfirst⟩))
    | service hfirst => exact .inl (.inr ⟨rfl, _, rfl, hfirst⟩)
    | revision hfirst => exact .inr ⟨rfl, _, rfl, hfirst⟩

theorem resource_eq_empty_iff : resource env = .empty ↔ ¬ env.AnySet markVariables := by
  constructor
  · intro hempty hmarked
    obtain ⟨label, hruns⟩ := exists_runs_iff.2 hmarked
    have hprovider := (get?_resource_eq_some_iff hruns).2 .provider
    rw [hempty, get?_empty] at hprovider
    cases hprovider
  · intro hunmarked
    rw [resource, detect?_of_unmarked hunmarked]

/-- No other variables than these nine count. -/
theorem resource_congr
    (h : ∀ name ∈ markVariables ++ ["CLOUD_RUN_REGION", "FUNCTION_REGION", "GAE_REGION"],
      env.get? name = other.get? name) : resource env = resource other := by
  obtain ⟨hmarks, hregions⟩ := List.forall_mem_append.1 h
  have hdetect : detect? env = detect? other := by
    have hmarkers : ∀ platform : Platform, ∀ name ∈ platform.markers, name ∈ markVariables := by
      rintro (_ | _ | _) <;> decide
    unfold detect?
    congr 1
    funext platform
    exact anyPresent_congr fun name hname => hmarks name (hmarkers platform name hname)
  have hdetail : ∀ key names, (∀ name ∈ names, env.get? name = other.get? name) →
      detail env key names = detail other key names := by
    intro key names hnames
    rw [detail, detail, firstPresent?_congr hnames]
  have hservices : ∀ name ∈ serviceVariables, name ∈ markVariables := by decide
  have hrevisions : ∀ name ∈ revisionVariables, name ∈ markVariables := by decide
  unfold resource
  rw [hdetect, hdetail _ regionVariables hregions,
    hdetail _ _ fun name hname => hmarks name (hservices name hname),
    hdetail _ _ fun name hname => hmarks name (hrevisions name hname)]

/-- **The resource follows the variables of the platforms.**

- It is empty if and only if no variable marks a platform, whatever region is named.
- Else one platform counts, the first that is marked, and the resource has the attributes that
  follow on it and no others.
- Two environments with the same marks and the same regions have the same resource. -/
theorem resource_follows_variables (env : Environment) :
    (resource env = .empty ↔ ∀ name ∈ markVariables, env.get? name = none) ∧
    ((∀ name, env.get? name ≠ none →
        name ∈ ["CLOUD_RUN_REGION", "FUNCTION_REGION", "GAE_REGION"]) →
      ∀ key, (resource env).get? key = none) ∧
    ((∃ name ∈ markVariables, env.get? name ≠ none) → ∃ label, Runs env label) ∧
    (∀ label, Runs env label → ∀ key value,
      (resource env).get? key = some value ↔ Attribute env label key value) ∧
    ∀ other, (∀ name ∈ markVariables ++ ["CLOUD_RUN_REGION", "FUNCTION_REGION", "GAE_REGION"],
        env.get? name = other.get? name) →
      resource env = resource other := by
  have hempty : resource env = .empty ↔ ∀ name ∈ markVariables, env.get? name = none := by
    rw [resource_eq_empty_iff, AnySet]
    simp only [not_exists, not_and, not_not]
  refine ⟨hempty, fun h key => ?_, exists_runs_iff.2, fun label hruns key value => ?_,
    fun other h => resource_congr h⟩
  · have hapart : ∀ name ∈ markVariables,
        name ∉ ["CLOUD_RUN_REGION", "FUNCTION_REGION", "GAE_REGION"] := by decide
    have hunmarked : resource env = .empty := by
      refine hempty.2 fun name hname => ?_
      by_contra hset
      exact hapart name hname (h name hset)
    rw [hunmarked, get?_empty]
  · exact get?_resource_eq_some_iff hruns

/-! ### Environments with leftovers

One for each platform, with variables of the platforms behind it. -/

/-- A service of Cloud Run, whose name is set to the empty text. -/
def runLeftovers : Environment := .ofList [
  ("K_SERVICE", ""), ("FUNCTION_NAME", "old-function"), ("FUNCTION_REGION", "us-east1"),
  ("GAE_REGION", "europe-west1"), ("GAE_VERSION", "v2"), ("HOME", "/root")]

/-- A cloud function that is known by its target only. -/
def functionLeftovers : Environment := .ofList [
  ("FUNCTION_TARGET", "handle"), ("GAE_SERVICE", "old-service"), ("CLOUD_RUN_REGION", "")]

/-- A version on App Engine. -/
def engineLeftovers : Environment := .ofList [("GAE_VERSION", "v2"), ("HOME", "/root")]

theorem resource_follows_variables_leftovers :
    Runs runLeftovers "gcp_cloud_run" ∧
    (resource runLeftovers).get? "cloud.platform" = some (.text "gcp_cloud_run") ∧
    (resource runLeftovers).get? "faas.name" = some (.text "") ∧
    (resource runLeftovers).get? "cloud.region" = some (.text "us-east1") ∧
    (resource runLeftovers).get? "faas.version" = some (.text "v2") ∧
    resource runLeftovers = resource (.ofList [
      ("K_SERVICE", ""), ("FUNCTION_NAME", "old-function"), ("FUNCTION_REGION", "us-east1"),
      ("GAE_REGION", "europe-west1"), ("GAE_VERSION", "v2")]) ∧
    Runs functionLeftovers "gcp_cloud_functions" ∧
    (resource functionLeftovers).get? "cloud.platform" = some (.text "gcp_cloud_functions") ∧
    (resource functionLeftovers).get? "faas.name" = some (.text "old-service") ∧
    (resource functionLeftovers).get? "cloud.region" = some (.text "") ∧
    (∃ label, Runs engineLeftovers label) ∧ Runs engineLeftovers "gcp_app_engine" ∧
    (resource engineLeftovers).get? "cloud.provider" = some (.text "gcp") ∧
    (resource engineLeftovers).get? "cloud.platform" = some (.text "gcp_app_engine") ∧
    (resource engineLeftovers).get? "faas.version" = some (.text "v2") ∧
    ∀ key, (resource (.ofList [("CLOUD_RUN_REGION", "us-east1")])).get? key = none := by
  have hrun : Runs runLeftovers "gcp_cloud_run" := .cloudRun ⟨"K_SERVICE", by decide, by decide⟩
  have hfunction : Runs functionLeftovers "gcp_cloud_functions" :=
    .cloudFunctions (by unfold AnySet; decide) ⟨"FUNCTION_TARGET", by decide, by decide⟩
  have hengine : Runs engineLeftovers "gcp_app_engine" :=
    .appEngine (by unfold AnySet; decide) (by unfold AnySet; decide)
      ⟨"GAE_VERSION", by decide, by decide⟩
  obtain ⟨-, -, -, hrunValue, hsame⟩ := resource_follows_variables runLeftovers
  obtain ⟨-, -, -, hfunctionValue, -⟩ := resource_follows_variables functionLeftovers
  obtain ⟨-, -, hexists, hengineValue, -⟩ := resource_follows_variables engineLeftovers
  obtain ⟨-, hregion, -⟩ :=
    resource_follows_variables (.ofList [("CLOUD_RUN_REGION", "us-east1")])
  have hrunValue := hrunValue _ hrun
  have hfunctionValue := hfunctionValue _ hfunction
  have hengineValue := hengineValue _ hengine
  refine ⟨hrun, (hrunValue _ _).2 .platform, (hrunValue _ _).2 (.service ?_),
    (hrunValue _ _).2 (.region ?_), (hrunValue _ _).2 (.revision ?_), hsame _ (by decide),
    hfunction, (hfunctionValue _ _).2 .platform, (hfunctionValue _ _).2 (.service ?_),
    (hfunctionValue _ _).2 (.region ?_), hexists ⟨"GAE_VERSION", by decide, by decide⟩, hengine,
    (hengineValue _ _).2 .provider, (hengineValue _ _).2 .platform,
    (hengineValue _ _).2 (.revision ?_), hregion fun name hname => ?_⟩
  · exact ⟨[], "K_SERVICE", _, rfl, by decide, by decide⟩
  · exact ⟨["CLOUD_RUN_REGION"], "FUNCTION_REGION", _, rfl, by decide, by decide⟩
  · exact ⟨["K_REVISION"], "GAE_VERSION", _, rfl, by decide, by decide⟩
  · exact ⟨["K_SERVICE", "FUNCTION_NAME"], "GAE_SERVICE", _, rfl, by decide, by decide⟩
  · exact ⟨[], "CLOUD_RUN_REGION", _, rfl, by decide, by decide⟩
  · exact ⟨["K_REVISION"], "GAE_VERSION", _, rfl, by decide, by decide⟩
  · by_contra hother
    have hne : "CLOUD_RUN_REGION" ≠ name := by
      rintro rfl
      exact hother (by decide)
    exact hname (by simp [Environment.get?, Environment.ofList, hne])

end Platform

end TelemetryAuth
