import Mathlib.Logic.Basic
import TelemetryAuth.Credential.Provider
import TelemetryAuth.Proofs.Header.Attach

/-!
# The header set of a token

The set that authenticates a call has two headers, one for the token and one for the project
(`CallHeaders.toList_ofGrant`).  Their names differ and every rule admits them, so whether the set
can be attached depends on its two values only (`Grant.FitsHeaders`), and where it cannot, a value
is blamed (`CallHeaders.unfit_of_blames`).
-/

namespace TelemetryAuth

/-! ### Names and values -/

/-- A rule for names that admits both names of a set. -/
structure AdmitsNames (isName : String → Bool) : Prop where
  authorization : isName CallHeaders.authorizationName = true
  billedProject : isName CallHeaders.billedProjectName = true

theorem admitsNames_isName : AdmitsNames Header.isName := ⟨by decide +kernel, by decide +kernel⟩

theorem admitsNames_isMetadataName : AdmitsNames Header.isMetadataName :=
  ⟨by decide +kernel, by decide +kernel⟩

/-- What may stand in a header may stand in front of any value. -/
theorem Header.isValue_append {front : String} (h : Header.isValue front = true)
    (value : String) : Header.isValue (front ++ value) = Header.isValue value := by
  unfold isValue at *
  rw [String.toList_append, List.all_append, h, Bool.true_and]

theorem Header.isValue_bearer (token : String) :
    Header.isValue ("Bearer " ++ token) = Header.isValue token :=
  isValue_append (by decide +kernel) token

namespace CallHeaders

variable {isName : String → Bool} {grant : Grant}

/-- A header set has two entries. -/
theorem toList_ofGrant (grant : Grant) :
    (ofGrant grant).toList =
      [(authorizationName, "Bearer " ++ grant.token),
        (billedProjectName, grant.billedProject)] := by
  have horder : authorizationName < billedProjectName := by decide +kernel
  simp [ofGrant, Dictionary.ofList, Dictionary.insert, Dictionary.insertEntry, Dictionary.empty,
    Dictionary.toList, horder]

theorem forall_mem_ofGrant {holds : String × String → Prop} :
    (∀ header ∈ (ofGrant grant).toList, holds header) ↔
      holds (authorizationName, "Bearer " ++ grant.token) ∧
        holds (billedProjectName, grant.billedProject) := by
  rw [toList_ofGrant, List.forall_mem_cons, List.forall_mem_singleton]

/-- The two names of a set differ. -/
theorem namesDiffer_ofGrant (grant : Grant) : NamesDiffer (ofGrant grant) := by
  have hnames : Header.lowerName authorizationName ≠ Header.lowerName billedProjectName := by
    decide +kernel
  unfold NamesDiffer
  rw [toList_ofGrant]
  exact List.pairwise_pair.2 hnames

theorem ofGrant_injective : Function.Injective ofGrant := by
  rintro ⟨project, token⟩ ⟨otherProject, otherToken⟩ heq
  have hlist := congrArg Dictionary.toList heq
  rw [toList_ofGrant, toList_ofGrant] at hlist
  simp only [List.cons.injEq, Prod.mk.injEq, String.append_right_inj, true_and, and_true] at hlist
  obtain ⟨rfl, rfl⟩ := hlist
  rfl

end CallHeaders

/-! ### Sets that fit -/

/-- Both values of the header set of a grant are well formed. -/
def Grant.FitsHeaders (grant : Grant) : Prop :=
  Header.isValue grant.billedProject = true ∧ Header.isValue ("Bearer " ++ grant.token) = true

instance (grant : Grant) : Decidable grant.FitsHeaders := inferInstanceAs (Decidable (_ ∧ _))

namespace CallHeaders

variable {isName : String → Bool} {grant : Grant}

theorem fits_ofGrant_iff (hnames : AdmitsNames isName) :
    (∀ header ∈ (ofGrant grant).toList, Header.Fits isName header) ↔ grant.FitsHeaders := by
  rw [forall_mem_ofGrant]
  constructor
  · rintro ⟨⟨-, htoken⟩, -, hproject⟩
    exact ⟨hproject, htoken⟩
  · rintro ⟨hproject, htoken⟩
    exact ⟨⟨hnames.authorization, htoken⟩, hnames.billedProject, hproject⟩

theorem exists_not_fits_ofGrant (hnames : AdmitsNames isName) (h : ¬ grant.FitsHeaders) :
    ∃ header ∈ (ofGrant grant).toList, ¬ Header.Fits isName header := by
  rw [← fits_ofGrant_iff hnames] at h
  simpa only [not_forall, exists_prop] using h

/-- A request with the set of a grant has one value for each of the two names. -/
theorem values_of_overlaid {before after : HeaderMap} (h : before.Overlaid (ofGrant grant) after) :
    after.values "authorization" = ["Bearer " ++ grant.token] ∧
      after.values "x-goog-user-project" = [grant.billedProject] := by
  have htoken : Header.lowerName authorizationName = Header.lowerName "authorization" := by
    decide +kernel
  have hproject : Header.lowerName billedProjectName = Header.lowerName "x-goog-user-project" := by
    decide +kernel
  obtain ⟨hown, hown'⟩ := forall_mem_ofGrant.1 h.own
  exact ⟨hown _ htoken, hown' _ hproject⟩

/-- A set has names that both rules admit, so it is refused for one of its values. -/
theorem unfit_of_blames (hnames : AdmitsNames isName) {header : String × String}
    (hmem : header ∈ (ofGrant grant).toList) {fault : HeaderFault}
    (hblames : fault.Blames isName header) :
    fault = .value header.1 ∧ Header.isValue header.2 = false := by
  have hadmits : ∀ header ∈ (ofGrant grant).toList, isName header.1 = true :=
    forall_mem_ofGrant.2 ⟨hnames.authorization, hnames.billedProject⟩
  cases fault with
  | name name =>
    have hname := hadmits header hmem
    rw [hblames.2] at hname
    cases hname
  | value name => exact ⟨by rw [hblames.1], hblames.2.2⟩

/-- No value of a set can stand in a header. -/
def Unfit (set : CallHeaders) : Prop := ∀ header ∈ set.toList, Header.isValue header.2 = false

theorem unfit_ofGrant_iff :
    Unfit (ofGrant grant) ↔
      Header.isValue grant.token = false ∧ Header.isValue grant.billedProject = false := by
  unfold Unfit
  rw [forall_mem_ofGrant]
  dsimp only
  rw [Header.isValue_bearer]

end CallHeaders

end TelemetryAuth
