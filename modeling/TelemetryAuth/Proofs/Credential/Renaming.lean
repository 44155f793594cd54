import Mathlib.Data.List.Permutation
import TelemetryAuth.Proofs.Credential.Access

/-!
# Tokens under other names

A back end is renamed by changing the texts of the tokens it brings, and nothing else.  A credential
never looks at the text of a token, except that it compares the token it gets with the one it holds.
If the renaming is injective it does not change the outcome of this comparison, so a call on a
renamed provider is the renamed call (`Provider.grant_renamed`), and it logs the same.

Both hooks look at the text of a token once more, to see whether it can stand in a header.  If the
renaming keeps that, what they attach differs in the authorization only, and they refuse a set if
and only if they refuse the renamed one (`Grpc.attachMetadata_renamed`, `Http.sendWith_renamed`).

A set is made anew for every call and gone through in an order of its own, so nothing ties the order
of a set to that of the renamed one.  The order shows in one case only: the interceptor names the
first header of a set none of whose values can stand in a header (`Grpc.NamesFirst`).  Every order
of a set is the order of the renamed set at some draw, and the other way round
(`HeaderOrder.exists_names_eq`).
-/

namespace TelemetryAuth

/-! ### Renaming -/

section Definitions

variable (rename : String → String)

/-- A token with its text renamed. -/
def BearerToken.renamed (token : BearerToken) : BearerToken :=
  { token with value := rename token.value }

/-- An outcome with its token renamed, if it brings one. -/
def FetchOutcome.renamed : FetchOutcome → FetchOutcome
  | .token brought => .token (brought.renamed rename)
  | .failure reason => .failure reason
  | .crash message => .crash message

/-- A back end that brings renamed tokens. -/
def Backend.renamed (backend : Backend) : Backend := fun n => (backend n).renamed rename

/-- A credential that holds a renamed token. -/
def Credential.renamed (credential : Credential) : Credential :=
  { credential with held := credential.held.map (BearerToken.renamed rename) }

/-- A provider of renamed tokens. -/
def Provider.renamed (provider : Provider) : Provider :=
  ⟨provider.backend.renamed rename, provider.credential.renamed rename, provider.fetches⟩

/-- A grant of a renamed token. -/
def Grant.renamed (grant : Grant) : Grant := { grant with token := rename grant.token }

end Definitions

variable {rename : String → String}

theorem BearerToken.renamed_injective (h : Function.Injective rename) :
    Function.Injective (renamed rename) := by
  rintro ⟨value, expiry⟩ ⟨other, later⟩ heq
  obtain ⟨hvalue, hexpiry⟩ := BearerToken.mk.inj heq
  rw [BearerToken.mk.injEq]
  exact ⟨h hvalue, hexpiry⟩

theorem Grant.renamed_injective (h : Function.Injective rename) :
    Function.Injective (renamed rename) := by
  rintro ⟨project, token⟩ ⟨otherProject, otherToken⟩ heq
  obtain ⟨hproject, htoken⟩ := Grant.mk.inj heq
  rw [Grant.mk.injEq]
  exact ⟨hproject, h htoken⟩

/-- The project of a provider is not renamed, and so is the entry that records it. -/
theorem Provider.create_renamed (rename : String → String) (reported : Option String)
    (backend : Backend) :
    create reported (backend.renamed rename) =
      (create reported backend).map (Provider.renamed rename) := by
  unfold create Credential.ofReported
  cases RequiredOption.nonEmpty? reported with
  | none => rfl
  | some project => rfl

/-! ### Calls -/

namespace Credential

variable {credential : Credential} {token : BearerToken} {now : Instant}

theorem mustFetch?_renamed :
    (credential.renamed rename).mustFetch? now = credential.mustFetch? now := by
  unfold mustFetch? renamed
  cases credential.held with
  | none => rfl
  | some token => rfl

/-- Whether a token is handed out again is seen on renamed tokens as well. -/
theorem store_renamed (h : Function.Injective rename) :
    (credential.renamed rename).store (token.renamed rename) =
      (credential.store token).renamed rename := by
  have hrepeated : (credential.renamed rename).held = some (token.renamed rename) ↔
      credential.held = some token := by
    show credential.held.map _ = (some token).map _ ↔ _
    exact (Option.map_injective (BearerToken.renamed_injective h)).eq_iff
  unfold store
  rw [decide_eq_decide.2 hrepeated]
  rfl

theorem grant_renamed (h : credential.held = some token) :
    (credential.renamed rename).grant = credential.grant.renamed rename := by
  unfold grant renamed Grant.renamed
  rw [h]
  rfl

/-- A call with renamed tokens is the renamed call. -/
theorem call_renamed (h : Function.Injective rename) (next : FetchOutcome) :
    (credential.renamed rename).call now (next.renamed rename) =
      ⟨(credential.call now next).result.map (Grant.renamed rename),
        (credential.call now next).after.renamed rename, (credential.call now next).fetched,
        (credential.call now next).log⟩ := by
  unfold call
  rw [mustFetch?_renamed]
  cases hdue : credential.mustFetch? now with
  | none => rfl
  | some due =>
    cases due with
    | false =>
      obtain ⟨token, hheld, -⟩ := held_of_mustFetch?_false hdue
      show (⟨.ok (credential.renamed rename).grant, _, _, _⟩ : Call) = _
      rw [grant_renamed hheld]
      rfl
    | true =>
      cases next with
      | failure reason => rfl
      | crash message => rfl
      | token token =>
        show (⟨.ok ((credential.renamed rename).store (token.renamed rename)).grant, _, _, _⟩ :
          Call) = _
        rw [store_renamed h, grant_renamed (held_store token)]
        rfl

end Credential

/-- **A call on a renamed provider is the renamed call**, and logs the same. -/
theorem Provider.grant_renamed (h : Function.Injective rename) (provider : Provider)
    (now : Instant) :
    (provider.renamed rename).grant now =
      ⟨(provider.grant now).result.map (Grant.renamed rename),
        (provider.grant now).after.renamed rename, (provider.grant now).log⟩ := by
  have hcall : (provider.renamed rename).credential.call now
      ((provider.renamed rename).backend (provider.renamed rename).fetches) = _ :=
    Credential.call_renamed h (provider.backend provider.fetches)
  unfold grant
  dsimp only
  rw [hcall]
  rfl

/-! ### Header sets -/

/-- A renaming under which a text can stand in a header if and only if its name can. -/
def KeepsValues (rename : String → String) : Prop :=
  ∀ value, Header.isValue (rename value) = Header.isValue value

/-- Two requests carry a token each, and everything else on them is the same. -/
structure HeaderMap.AlikeButToken (token other : String) (a b : HeaderMap) : Prop where
  authorization : ∀ name,
    Header.lowerName CallHeaders.authorizationName = Header.lowerName name →
      a.values name = ["Bearer " ++ token] ∧ b.values name = ["Bearer " ++ other]
  others : ∀ name, Header.lowerName CallHeaders.authorizationName ≠ Header.lowerName name →
    a.values name = b.values name

namespace CallHeaders

/-- The values of a set fit if and only if those of the renamed one do. -/
theorem fitsHeaders_renamed (hkeeps : KeepsValues rename) {grant : Grant} :
    (grant.renamed rename).FitsHeaders ↔ grant.FitsHeaders := by
  unfold Grant.FitsHeaders Grant.renamed
  dsimp only
  rw [Header.isValue_bearer, Header.isValue_bearer, hkeeps grant.token]

/-- What a set is attached to differs from what the renamed one is attached to in the
authorization only. -/
theorem alikeButToken_of_overlaid {existing a b : HeaderMap} {grant : Grant}
    (ha : existing.Overlaid (ofGrant grant) a)
    (hb : existing.Overlaid (ofGrant (grant.renamed rename)) b) :
    a.AlikeButToken grant.token (rename grant.token) b := by
  obtain ⟨haToken, haProject⟩ := forall_mem_ofGrant.1 ha.own
  obtain ⟨hbToken, hbProject⟩ := forall_mem_ofGrant.1 hb.own
  refine ⟨fun name hname => ⟨haToken name hname, hbToken name hname⟩, fun name hname => ?_⟩
  by_cases hproject : Header.lowerName billedProjectName = Header.lowerName name
  · rw [haProject name hproject, hbProject name hproject]
    rfl
  · rw [ha.others name (forall_mem_ofGrant.2 ⟨hname, hproject⟩),
      hb.others name (forall_mem_ofGrant.2 ⟨hname, hproject⟩)]

theorem unfit_ofGrant_renamed (hkeeps : KeepsValues rename) {grant : Grant} :
    Unfit (ofGrant (grant.renamed rename)) ↔ Unfit (ofGrant grant) := by
  rw [unfit_ofGrant_iff, unfit_ofGrant_iff]
  unfold Grant.renamed
  dsimp only
  rw [hkeeps grant.token]

/-- A value of a set and a value of the renamed set do not fit: they have one name, or else no value
of the set fits. -/
theorem eq_or_unfit (hkeeps : KeepsValues rename) {grant : Grant} {mine theirs : String × String}
    (hmine : mine ∈ (ofGrant grant).toList)
    (htheirs : theirs ∈ (ofGrant (grant.renamed rename)).toList)
    (hunfit : Header.isValue mine.2 = false) (hunfit' : Header.isValue theirs.2 = false) :
    mine.1 = theirs.1 ∨ Unfit (ofGrant grant) := by
  rw [toList_ofGrant, List.mem_pair] at hmine htheirs
  rw [unfit_ofGrant_iff]
  rcases hmine with rfl | rfl <;> rcases htheirs with rfl | rfl
  · exact .inl rfl
  · rw [Header.isValue_bearer] at hunfit
    exact .inr ⟨hunfit, hunfit'⟩
  · rw [Header.isValue_bearer] at hunfit'
    exact .inr ⟨(hkeeps grant.token).symm.trans hunfit', hunfit⟩
  · exact .inl rfl

end CallHeaders

/-! ### Orders -/

namespace HeaderOrder

open CallHeaders

/-- The names of a set in the order in which they are gone through. -/
def names (order : HeaderOrder) (set : CallHeaders) : List String := (order.list set).map (·.1)

/-- Sets are gone through like the renamed ones in another order. -/
def Matches (rename : String → String) (order other : HeaderOrder) : Prop :=
  ∀ grant : Grant,
    order.names (.ofGrant grant) = other.names (.ofGrant (grant.renamed rename))

/-- There are two ways to go through a set. -/
theorem names_ofGrant (order : HeaderOrder) (grant : Grant) :
    order.names (.ofGrant grant) = [authorizationName, billedProjectName] ∨
      order.names (.ofGrant grant) = [billedProjectName, authorizationName] := by
  have hnames : (order.names (.ofGrant grant)).Perm [authorizationName, billedProjectName] := by
    have hperm := (order.list_perm (.ofGrant grant)).map (·.1)
    rw [toList_ofGrant] at hperm
    exact hperm
  exact List.perm_pair.1 hnames

/-- The sets of some tokens can be gone through like those of other tokens in a given order. -/
theorem exists_names_eq {mine : Grant → Grant} (h : Function.Injective mine)
    (theirs : Grant → Grant) (order : HeaderOrder) : ∃ other : HeaderOrder, ∀ grant,
      other.names (.ofGrant (mine grant)) = order.names (.ofGrant (theirs grant)) := by
  classical
  -- A set is gone through from behind if the other one is.
  let turned (set : CallHeaders) : Prop := ∃ grant, set = .ofGrant (mine grant) ∧
    order.names (.ofGrant (theirs grant)) = [billedProjectName, authorizationName]
  let list (set : CallHeaders) := if turned set then set.toList.reverse else set.toList
  have hperm : ∀ set, (list set).Perm set.toList := by
    intro set
    unfold list
    split
    · exact set.toList.reverse_perm
    · exact .refl _
  refine ⟨⟨list, hperm⟩, fun grant => ?_⟩
  have hlist : names ⟨list, hperm⟩ (.ofGrant (mine grant)) =
      if turned (.ofGrant (mine grant)) then [billedProjectName, authorizationName]
      else [authorizationName, billedProjectName] := by
    unfold names list
    rw [apply_ite (List.map _), toList_ofGrant]
    rfl
  rw [hlist]
  rcases order.names_ofGrant (theirs grant) with hnames | hnames
  · rw [if_neg, hnames]
    rintro ⟨other, hset, hturned⟩
    obtain rfl := h (ofGrant_injective hset)
    rw [hnames] at hturned
    exact absurd (List.cons.inj hturned).1 (by decide)
  · rw [if_pos ⟨grant, rfl, hnames⟩, hnames]

end HeaderOrder

/-! ### Hooks -/

/-- The status of a call with a set none of whose values can stand in a header: it names the header
that comes first. -/
inductive Grpc.NamesFirst (order : HeaderOrder) (set : CallHeaders) : Status → Prop
  | intro {name : String} (unfit : set.Unfit) (first : (order.names set).head? = some name) :
      NamesFirst order set
        ⟨.internal, "Invalid header value for " ++ name ++ ": failed to parse metadata value"⟩

/-- A set none of whose values fits is refused for the header that comes first. -/
theorem Grpc.attachMetadata_of_unfit (existing : HeaderMap) (order : HeaderOrder) {grant : Grant}
    (h : CallHeaders.Unfit (.ofGrant grant)) :
    ∃ status, attachMetadata existing (.ofGrant grant) order = .error status ∧
      NamesFirst order (.ofGrant grant) status := by
  have hperm := order.list_perm (.ofGrant grant)
  cases hlist : order.list (.ofGrant grant) with
  | nil =>
    rw [hlist, CallHeaders.toList_ofGrant] at hperm
    cases hperm.nil_eq
  | cons first later =>
    have hmem : first ∈ (CallHeaders.ofGrant grant).toList := by
      rw [← hperm.mem_iff, hlist]
      exact List.mem_cons_self
    have hmisfit : ¬ Header.Fits Header.isMetadataName first := by
      rintro ⟨-, hvalue⟩
      cases hvalue.symm.trans (h first hmem)
    obtain ⟨fault, hblames, hone⟩ := HeaderMap.attachOne_of_not_fits existing hmisfit
    obtain ⟨rfl, -⟩ := CallHeaders.unfit_of_blames admitsNames_isMetadataName hmem hblames
    have hnames : (order.names (.ofGrant grant)).head? = some first.1 := by
      rw [HeaderOrder.names, hlist]
      rfl
    refine ⟨_, ?_, .intro h hnames⟩
    rw [attachMetadata, HeaderMap.attach, hlist, HeaderMap.attachList, hone]
    rfl

/-- If the first names of two sets are the same, so are the statuses. -/
theorem Grpc.NamesFirst.status_eq {order other : HeaderOrder} {set set' : CallHeaders}
    {status status' : Status} (h : NamesFirst order set status)
    (h' : NamesFirst other set' status') (hnames : order.names set = other.names set') :
    status = status' := by
  obtain ⟨-, hfirst⟩ := h
  obtain ⟨-, hfirst'⟩ := h'
  rw [hnames, hfirst'] at hfirst
  rw [Option.some.inj hfirst]

/-- What the interceptor makes of a set and of the renamed one, which are gone through in any
orders. -/
theorem Grpc.attachMetadata_renamed (hkeeps : KeepsValues rename) (existing : HeaderMap)
    (grant : Grant) (order other : HeaderOrder) :
    (∃ a b, attachMetadata existing (.ofGrant grant) order = .ok a ∧
      attachMetadata existing (.ofGrant (grant.renamed rename)) other = .ok b ∧
      a.AlikeButToken grant.token (rename grant.token) b) ∨
    ∃ status status', attachMetadata existing (.ofGrant grant) order = .error status ∧
      attachMetadata existing (.ofGrant (grant.renamed rename)) other = .error status' ∧
      (status = status' ∨ NamesFirst order (.ofGrant grant) status ∧
        NamesFirst other (.ofGrant (grant.renamed rename)) status') := by
  by_cases hfits : grant.FitsHeaders
  · obtain ⟨a, ha, hoverlaid⟩ := attachMetadata_of_fitsHeaders existing order hfits
    obtain ⟨b, hb, hoverlaid'⟩ := attachMetadata_of_fitsHeaders existing other
      ((CallHeaders.fitsHeaders_renamed hkeeps).2 hfits)
    exact .inl ⟨a, b, ha, hb, CallHeaders.alikeButToken_of_overlaid hoverlaid hoverlaid'⟩
  · refine .inr ?_
    by_cases hunfit : CallHeaders.Unfit (.ofGrant grant)
    · obtain ⟨status, hstatus, hfirst⟩ := attachMetadata_of_unfit existing order hunfit
      obtain ⟨status', hstatus', hfirst'⟩ := attachMetadata_of_unfit existing other
        ((CallHeaders.unfit_ofGrant_renamed hkeeps).2 hunfit)
      exact ⟨status, status', hstatus, hstatus', .inr ⟨hfirst, hfirst'⟩⟩
    · -- One value fits and the other does not, so the same header is blamed in any order.
      obtain ⟨header, hmem, hvalue, hattach⟩ :=
        attachMetadata_of_not_fitsHeaders existing order hfits
      obtain ⟨header', hmem', hvalue', hattach'⟩ := attachMetadata_of_not_fitsHeaders existing other
        (mt (CallHeaders.fitsHeaders_renamed hkeeps).1 hfits)
      have hname : header.1 = header'.1 :=
        (CallHeaders.eq_or_unfit hkeeps hmem hmem' hvalue hvalue').resolve_right hunfit
      refine ⟨_, _, hattach, hattach', .inl ?_⟩
      rw [hname]

/-- What the client makes of a set and of the renamed one, which are gone through in any orders. -/
theorem Http.sendWith_renamed (hkeeps : KeepsValues rename) (client : Client) (request : Request)
    (grant : Grant) (order other : HeaderOrder) :
    (∃ reason, sendWith client request (.ofGrant grant) order = ⟨.error reason, []⟩ ∧
      sendWith client request (.ofGrant (grant.renamed rename)) other = ⟨.error reason, []⟩) ∨
    ∃ a b, sendWith client request (.ofGrant grant) order =
        ⟨client { request with headers := a }, [{ request with headers := a }]⟩ ∧
      sendWith client request (.ofGrant (grant.renamed rename)) other =
        ⟨client { request with headers := b }, [{ request with headers := b }]⟩ ∧
      a.AlikeButToken grant.token (rename grant.token) b := by
  by_cases hfits : grant.FitsHeaders
  · obtain ⟨a, hoverlaid, ha⟩ := sendWith_of_fitsHeaders client request order hfits
    obtain ⟨b, hoverlaid', hb⟩ := sendWith_of_fitsHeaders client request other
      ((CallHeaders.fitsHeaders_renamed hkeeps).2 hfits)
    exact .inr ⟨a, b, ha, hb, CallHeaders.alikeButToken_of_overlaid hoverlaid hoverlaid'⟩
  · exact .inl ⟨_, sendWith_of_not_fitsHeaders client request order hfits,
      sendWith_of_not_fitsHeaders client request other
        (mt (CallHeaders.fitsHeaders_renamed hkeeps).1 hfits)⟩

end TelemetryAuth
