import TelemetryAuth.Proofs.Credential.Crash
import TelemetryAuth.Proofs.Hook.Agreement

/-!
# The status of a call that a credential authenticates

An exporter retries a call that ends as unavailable and gives up one that ends in another way, so
it matters why a hook ends as it does.  Over a source of a credential there are four ways
(`HookCases`): the call for the token crashes, its fetch fails, it answers with a set that cannot be
attached, or with one that can.  Both hooks go the same way (`hookCases`).

The main result is `status_classifies`.
-/

namespace TelemetryAuth

/-! ### What the hooks do -/

/-- A call for a token fails for one reason only, apart from crashes: its fetch failed. -/
theorem Provider.refreshFailed_of_failed {provider : Provider} {now : Instant}
    {error : CredentialError} (h : (provider.grant now).result = .error (.failed error)) :
    ∃ reason, error = .refreshFailed reason := by
  cases provider.callCases now with
  | overflow due fetch result after => simp [result] at h
  | fresh due fetch result after => simp [result] at h
  | failed reason due next fetch result after =>
    rw [result] at h
    obtain rfl := CallFailure.failed.inj (Except.error.inj h)
    exact ⟨reason, rfl⟩
  | crashed message due next fetch result after => simp [result] at h
  | refreshed token due next fetch result after => simp [result] at h

/-- What the two hooks can do with a source of a provider. -/
inductive HookCases (provider : Provider) (now : Instant) (existing : HeaderMap)
    (ending : Except CallFailure Grpc.Intercepted) (exchange : Except CallFailure Http.Exchange) :
    Prop
  | crashed (message : String)
      (asked : (provider.grant now).result = .error (.crash message))
      (intercepted : ending = .error (.crash message))
      (exchanged : exchange = .error (.crash message))
  | dropped (reason : String)
      (asked : (provider.grant now).result = .error (.failed (.refreshFailed reason)))
      (intercepted :
        ending = .ok (.error ⟨.unavailable, (CredentialError.refreshFailed reason).message⟩))
      (exchanged : exchange = .ok ⟨.error (CredentialError.refreshFailed reason).message, []⟩)
  | refused (grant : Grant) (message reason : String)
      (asked : (provider.grant now).result = .ok grant)
      (misfit : ¬ grant.FitsHeaders)
      (intercepted : ending = .ok (.error ⟨.internal, message⟩))
      (exchanged : exchange = .ok ⟨.error reason, []⟩)
  | accepted (grant : Grant) (metadata : HeaderMap) (answer : Except String Http.Response)
      (sent : Http.Request)
      (asked : (provider.grant now).result = .ok grant)
      (fits : grant.FitsHeaders)
      (overlaid : existing.Overlaid (.ofGrant grant) metadata)
      (intercepted : ending = .ok (.ok metadata))
      (exchanged : exchange = .ok ⟨answer, [sent]⟩)

variable {place : Nat} {keyring : Keyring} {provider : Provider}

/-- **Both hooks go the way that the call for the token and its two headers determine.** -/
theorem hookCases (h : keyring[place]? = some provider) (origin : Origin) (now : Instant)
    (existing : HeaderMap) (order : HeaderOrder) (client : Http.Client) (request : Http.Request)
    (requestOrder : HeaderOrder) :
    HookCases provider now existing
      (Grpc.intercept (origin.source place) keyring now existing order).result
      (Http.send client (origin.source place) keyring now request requestOrder).result := by
  have hheaders : ((origin.source place).headers keyring now).result =
      (provider.grant now).result.map CallHeaders.ofGrant := by
    rw [headers_of_get? h]
  cases hasked : (provider.grant now).result with
  | error failure =>
    rw [hasked] at hheaders
    cases failure with
    | failed error =>
      obtain ⟨reason, rfl⟩ := Provider.refreshFailed_of_failed hasked
      exact .dropped reason hasked (Grpc.intercept_of_failed hheaders).1
        (Http.send_of_failed hheaders).1
    | crash message =>
      exact .crashed message hasked (Grpc.intercept_of_crash hheaders).1
        (Http.send_of_crash hheaders).1
  | ok grant =>
    rw [hasked] at hheaders
    rw [(Grpc.intercept_of_ok hheaders).1, (Http.send_of_ok hheaders).1]
    -- Metadata has a stricter rule for names, but both rules admit the names of this set.
    by_cases hfits : grant.FitsHeaders
    · obtain ⟨metadata, hattached, hoverlaid⟩ :=
        Grpc.attachMetadata_of_fitsHeaders existing order hfits
      obtain ⟨headers, -, hsent⟩ :=
        Http.sendWith_of_fitsHeaders client request requestOrder hfits
      exact .accepted grant metadata _ _ hasked hfits hoverlaid (congrArg Except.ok hattached)
        (congrArg Except.ok hsent)
    · obtain ⟨header, -, -, hattached⟩ :=
        Grpc.attachMetadata_of_not_fitsHeaders existing order hfits
      have hsent := Http.sendWith_of_not_fitsHeaders client request requestOrder hfits
      exact .refused grant _ _ hasked hfits (congrArg Except.ok hattached)
        (congrArg Except.ok hsent)

/-! ### The status -/

namespace HookCases

variable {now : Instant} {existing : HeaderMap} {ending : Except CallFailure Grpc.Intercepted}
  {exchange : Except CallFailure Http.Exchange}

theorem not_unauthenticated (h : HookCases provider now existing ending exchange)
    (message : String) : ending ≠ .ok (.error ⟨.unauthenticated, message⟩) := by
  cases h with
  | crashed message asked intercepted exchanged => simp [intercepted]
  | dropped reason asked intercepted exchanged => simp [intercepted]
  | refused grant message reason asked misfit intercepted exchanged => simp [intercepted]
  | accepted grant metadata answer sent asked fits overlaid intercepted exchanged =>
    simp [intercepted]

theorem unavailable_iff (h : HookCases provider now existing ending exchange) :
    (∃ message, ending = .ok (.error ⟨.unavailable, message⟩)) ↔
      ∃ reason, provider.fetch? now = some ⟨now, .failure reason⟩ := by
  -- The fetch failed exactly if the call for the token says so.
  simp only [← Provider.refreshFailed_iff]
  cases h with
  | crashed message asked intercepted exchanged => simp [intercepted, asked]
  | dropped reason asked intercepted exchanged => simp [intercepted, asked]
  | refused grant message reason asked misfit intercepted exchanged => simp [intercepted, asked]
  | accepted grant metadata answer sent asked fits overlaid intercepted exchanged =>
    simp [intercepted, asked]

theorem internal_iff (h : HookCases provider now existing ending exchange) :
    (∃ message, ending = .ok (.error ⟨.internal, message⟩)) ↔
      ∃ grant, (provider.grant now).result = .ok grant ∧ ¬ grant.FitsHeaders := by
  cases h with
  | crashed message asked intercepted exchanged => simp [intercepted, asked]
  | dropped reason asked intercepted exchanged => simp [intercepted, asked]
  | refused grant message reason asked misfit intercepted exchanged =>
    simp [intercepted, asked, misfit]
  | accepted grant metadata answer sent asked fits overlaid intercepted exchanged =>
    simp [intercepted, asked, fits]

/-- Without a crash and without a status the call goes on, with one value for each name. -/
theorem exists_metadata (h : HookCases provider now existing ending exchange)
    (hcheck : provider.credential.mustFetch? now ≠ none)
    (hfetch : ∀ message, provider.fetch? now ≠ some ⟨now, .crash message⟩)
    (hunavailable : ¬ ∃ message, ending = .ok (.error ⟨.unavailable, message⟩))
    (hinternal : ¬ ∃ message, ending = .ok (.error ⟨.internal, message⟩)) :
    ∃ grant metadata, (provider.grant now).result = .ok grant ∧ ending = .ok (.ok metadata) ∧
      metadata.values "authorization" = ["Bearer " ++ grant.token] ∧
      metadata.values "x-goog-user-project" = [grant.billedProject] := by
  cases h with
  | crashed message asked intercepted exchanged =>
    rcases Provider.result_eq_crash_iff.1 asked with hcrash | ⟨hnone, -⟩
    · exact absurd hcrash (hfetch message)
    · exact absurd hnone hcheck
  | dropped reason asked intercepted exchanged => exact absurd ⟨_, intercepted⟩ hunavailable
  | refused grant message reason asked misfit intercepted exchanged =>
    exact absurd ⟨_, intercepted⟩ hinternal
  | accepted grant metadata answer sent asked fits overlaid intercepted exchanged =>
    exact ⟨grant, metadata, asked, intercepted, CallHeaders.values_of_overlaid overlaid⟩

/-- The request fails, and the wrapped client is not called, exactly if the call ends with a
status. -/
theorem unsent_iff (h : HookCases provider now existing ending exchange) :
    (∃ reason, exchange = .ok ⟨.error reason, []⟩) ↔
      (∃ message, ending = .ok (.error ⟨.unavailable, message⟩)) ∨
        ∃ message, ending = .ok (.error ⟨.internal, message⟩) := by
  cases h with
  | crashed message asked intercepted exchanged => simp [intercepted, exchanged]
  | dropped reason asked intercepted exchanged => simp [intercepted, exchanged]
  | refused grant message reason asked misfit intercepted exchanged =>
    simp [intercepted, exchanged]
  | accepted grant metadata answer sent asked fits overlaid intercepted exchanged =>
    simp [intercepted, exchanged]

end HookCases

/-- A use in front of some steps may be replaced by any other use at the same reading. -/
theorem Access.after_use_eq (h : keyring[place]? = some provider) (way other : Use) (now : Instant)
    (later : List Access) :
    Access.after place keyring (.use way now :: later) =
      Access.after place keyring (.use other now :: later) := by
  unfold Access.after
  rw [List.foldl_cons, List.foldl_cons, perform, perform, (perform_use h way now).1,
    (perform_use h other now).1]

/-- **The status tells why a call that a credential authenticates is dropped.**  Take any steps with
the credential of a provider, and let a call and a request then be authenticated by a source of it.

- The call never ends as unauthenticated.  It ends as unavailable exactly if a fetch was made and
  failed, and as an internal error exactly if there is a token but the project, or the value that
  carries the token, is not well formed.
- Otherwise, unless the check of the credential or its fetch crashes, the call goes on with exactly
  one value for the authorization and one for the project.
- Whatever becomes of the headers of a token, the credential holds that token afterwards, and every
  later step finds what it would find after any other use, that of the token alone among them.
- The request fails without a call of the wrapped client exactly if the call ends as unavailable or
  as an internal error. -/
theorem status_classifies (h : keyring[place]? = some provider) (accesses : List Access)
    (origin : Origin) (now : Instant) (existing : HeaderMap) (order : HeaderOrder)
    (client : Http.Client) (request : Http.Request) (requestOrder : HeaderOrder) :
    let here := Access.after place keyring accesses
    let held := provider.afterRun (accesses.filterMap Access.reading?)
    let call := Grpc.intercept (origin.source place) here now existing order
    let exchange := Http.send client (origin.source place) here now request requestOrder
    let unavailable := ∃ message, call.result = .ok (.error ⟨.unavailable, message⟩)
    let internal := ∃ message, call.result = .ok (.error ⟨.internal, message⟩)
    (∀ message, call.result ≠ .ok (.error ⟨.unauthenticated, message⟩)) ∧
    (unavailable ↔ ∃ reason, held.fetch? now = some ⟨now, .failure reason⟩) ∧
    (internal ↔ ∃ grant, (held.grant now).result = .ok grant ∧
      ¬ (Header.isValue grant.billedProject = true ∧
        Header.isValue ("Bearer " ++ grant.token) = true)) ∧
    (held.credential.mustFetch? now ≠ none →
      (∀ message, held.fetch? now ≠ some ⟨now, .crash message⟩) →
      ¬ unavailable → ¬ internal →
      ∃ grant metadata, (held.grant now).result = .ok grant ∧ call.result = .ok (.ok metadata) ∧
        metadata.values "authorization" = ["Bearer " ++ grant.token] ∧
        metadata.values "x-goog-user-project" = [grant.billedProject]) ∧
    (∀ grant, (held.grant now).result = .ok grant →
      ∃ after token, call.after[place]? = some after ∧ after = (held.grant now).after ∧
        after.credential.held = some token ∧ grant = ⟨provider.billedProject, token.value⟩ ∧
        ∀ way later, Access.after place here (.use (.intercept origin existing order) now :: later)
          = Access.after place here (.use way now :: later)) ∧
    ((∃ reason, exchange.result = .ok ⟨.error reason, []⟩) ↔ unavailable ∨ internal) := by
  intro here held call exchange unavailable internal
  have hplace : place < keyring.length := (List.getElem?_eq_some_iff.1 h).1
  have hget : here[place]? = some held := by
    rw [show here = _ from Access.after_eq h accesses, List.getElem?_set_self hplace]
  have hhooks := hookCases hget origin now existing order client request requestOrder
  refine ⟨hhooks.not_unauthenticated, hhooks.unavailable_iff, hhooks.internal_iff,
    hhooks.exists_metadata, fun grant hgrant => ?_, hhooks.unsent_iff⟩
  -- The state after the call does not depend on what becomes of the headers.
  obtain ⟨token, hheld, rfl, -⟩ := Provider.token_of_grant hgrant
  have hafter : call.after[place]? = some (held.grant now).after := by
    rw [show call.after = _ from Grpc.after_intercept, headers_of_get? hget]
    exact List.getElem?_set_self (List.getElem?_eq_some_iff.1 hget).1
  have hproject : held.billedProject = provider.billedProject :=
    provider.billedProject_afterRun _
  refine ⟨_, token, hafter, rfl, hheld, congrArg (Grant.mk · token.value) hproject, ?_⟩
  intro way later
  exact Access.after_use_eq hget _ way now later

/-! ### A back end that learns

It fails once, brings a token that no header can carry, and then one that a header can carry. -/

/-- Such a back end. -/
def learningBackend : Backend :=
  Backend.ofList [.failure "unreachable", .token ⟨"broken\nline", some cachedExpiry⟩,
    .token ⟨"whole", none⟩]

/-- A new provider over that back end. -/
def learningProvider : Provider := ⟨learningBackend, ⟨"project", none, false⟩, 0⟩

theorem status_classifies_learning :
    [learningProvider][0]? = some learningProvider ∧
    let call := fun accesses => Grpc.intercept (Origin.created.source 0)
      (Access.after 0 [learningProvider] accesses) insideMargin repeatedHeaders .byName
    (∃ message, (call []).result = .ok (.error ⟨.unavailable, message⟩)) ∧
    (∃ message, (call [.use .token insideMargin]).result = .ok (.error ⟨.internal, message⟩)) ∧
    ∃ metadata,
      (call [.use .token insideMargin, .use .token insideMargin]).result = .ok (.ok metadata) ∧
      metadata.values "authorization" = ["Bearer whole"] := by
  have hprovider : [learningProvider][0]? = some learningProvider := rfl
  have hclassified := fun accesses => status_classifies hprovider accesses .created insideMargin
    repeatedHeaders .byName acceptingClient repeatedRequest .byName
  refine ⟨hprovider, ?_, ?_, ?_⟩
  · obtain ⟨-, hunavailable, -⟩ := hclassified []
    exact hunavailable.2 ⟨"unreachable", by decide +kernel⟩
  · obtain ⟨-, -, hinternal, -⟩ := hclassified [.use .token insideMargin]
    exact hinternal.2 ⟨⟨"project", "broken\nline"⟩, rfl, by decide +kernel⟩
  · obtain ⟨-, hunavailable, hinternal, hmetadata, -⟩ :=
      hclassified [.use .token insideMargin, .use .token insideMargin]
    have hfetch : (learningProvider.afterRun [insideMargin, insideMargin]).fetch? insideMargin =
        some ⟨insideMargin, .token ⟨"whole", none⟩⟩ := by decide +kernel
    have hasked : ((learningProvider.afterRun [insideMargin, insideMargin]).grant
        insideMargin).result = .ok ⟨"project", "whole"⟩ := rfl
    obtain ⟨grant, metadata, hgrant, hcall, hvalues, -⟩ := hmetadata (by decide +kernel)
      (fun message hcrash => by cases hfetch.symm.trans hcrash)
      (fun h => by
        obtain ⟨reason, hfailure⟩ := hunavailable.1 h
        cases hfetch.symm.trans hfailure)
      (fun h => by
        obtain ⟨grant, hgrant, hmisfit⟩ := hinternal.1 h
        obtain rfl := Except.ok.inj (hasked.symm.trans hgrant)
        exact hmisfit (by decide +kernel))
    obtain rfl := Except.ok.inj (hasked.symm.trans hgrant)
    exact ⟨metadata, hcall, hvalues⟩

end TelemetryAuth
