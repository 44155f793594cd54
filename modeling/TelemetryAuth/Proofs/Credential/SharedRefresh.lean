import TelemetryAuth.Proofs.Credential.Interleaving

/-!
# Callers that share one refresh

Some callers find the same credential stale.  While the back end fails, each of them makes a fetch
and fails, and the credential stays as it was; the first one that gets a token stores it for all
behind it, who make no fetch.  The stored token is not the one that was held before, because that
one was due (`held_ne_of_isDue?`), so it does not count as repeated and the rule for a first token
applies (`mustFetch?_store`).

`results_of_stale` counts fetches and results of sequential calls by induction on the callers, first
through the failures and then through the answers without a fetch (`results_of_fresh`).  The main
result is `callers_share_refresh`, for threads in any order.
-/

namespace TelemetryAuth

/-! ### The credential with the new token -/

namespace Credential

variable {credential : Credential} {token : BearerToken} {now : Instant}

/-- A stale credential does not hold a token that is not due. -/
theorem held_ne_of_isDue? (hstale : credential.mustFetch? now = some true)
    (hfresh : token.isDue? now = some false) : credential.held ≠ some token := by
  intro hheld
  cases hrepeated : credential.repeated with
  | false =>
    rw [mustFetch?_of_not_repeated hheld hrepeated, hfresh] at hstale
    simp at hstale
  | true =>
    rw [mustFetch?_of_repeated hheld hrepeated, BearerToken.hasExpired_of_isDue? hfresh] at hstale
    simp at hstale

/-- A token that was not held before is asked for its margin, not for its expiry. -/
theorem mustFetch?_store (h : credential.held ≠ some token) :
    (credential.store token).mustFetch? now = token.isDue? now := by
  refine mustFetch?_of_not_repeated (held_store token) ?_
  rw [← Bool.not_eq_true, repeated_store_iff]
  exact h

end Credential

/-! ### Sequential calls -/

namespace Provider

variable {provider : Provider} {token : BearerToken}

/-- Calls on a credential that is not stale make no fetch and get its token. -/
theorem results_of_fresh {clock : List Instant}
    (hfresh : ∀ now ∈ clock, provider.credential.mustFetch? now = some false) :
    provider.history clock = [] ∧
      (provider.replies clock).map (·.result) =
        List.replicate clock.length (.ok provider.credential.grant) := by
  induction clock with
  | nil => exact ⟨rfl, rfl⟩
  | cons now later ih =>
    obtain ⟨hnow, hlater⟩ := List.forall_mem_cons.1 hfresh
    obtain ⟨ihhistory, ihresults⟩ := ih hlater
    cases provider.callCases now with
    | fresh due fetch result after =>
      refine ⟨by rw [history_cons, fetch, after, ihhistory]; rfl, ?_⟩
      rw [replies, List.map_cons, result, after, ihresults, List.length_cons, List.replicate_succ]
    | overflow due fetch result after => simp [due] at hnow
    | failed reason due next fetch result after => simp [due] at hnow
    | crashed message due next fetch result after => simp [due] at hnow
    | refreshed token due next fetch result after => simp [due] at hnow

/-- A refresh that brings no token fails and leaves the credential as it was. -/
theorem result_of_token?_none {now : Instant}
    (hstale : provider.credential.mustFetch? now = some true)
    (hfails : (provider.backend provider.fetches).token? = none) :
    (∃ failure, (provider.grant now).result = .error failure) ∧
      (provider.grant now).after = provider.counted ∧
      provider.fetch? now = some ⟨now, provider.backend provider.fetches⟩ := by
  cases provider.callCases now with
  | overflow due fetch result after => simp [due] at hstale
  | fresh due fetch result after => simp [due] at hstale
  | failed reason due next fetch result after => exact ⟨⟨_, result⟩, after, next ▸ fetch⟩
  | crashed message due next fetch result after => exact ⟨⟨_, result⟩, after, next ▸ fetch⟩
  | refreshed token due next fetch result after => simp [next, FetchOutcome.token?] at hfails

/-- Calls on a stale credential: if the back end first fails `k` times and then brings a token that
is due at none of the readings, the first `k` calls fail, each with its own fetch, the next one
fetches the token, and those behind it share it. -/
theorem results_of_stale {clock : List Instant} (k : ℕ)
    (hstale : ∀ now ∈ clock, provider.credential.mustFetch? now = some true)
    (hfails : ∀ i < k, (provider.backend (provider.fetches + i)).token? = none)
    (hnext : provider.backend (provider.fetches + k) = .token token)
    (hfresh : ∀ now ∈ clock, token.isDue? now = some false) :
    (provider.history clock).length = min (k + 1) clock.length ∧
      ∃ failures : List CallFailure, failures.length = min k clock.length ∧
        (provider.replies clock).map (·.result) =
          failures.map .error ++
            List.replicate (clock.length - k) (.ok ⟨provider.billedProject, token.value⟩) := by
  induction clock generalizing provider k with
  | nil => exact ⟨by simp, [], by simp, by simp [replies]⟩
  | cons now later ih =>
    obtain ⟨hdue, hstaleLater⟩ := List.forall_mem_cons.1 hstale
    obtain ⟨hnow, hfreshLater⟩ := List.forall_mem_cons.1 hfresh
    cases k with
    | zero =>
      -- This call gets the token, and the calls behind it find it stored.
      cases provider.callCases now with
      | overflow due fetch result after => simp [due] at hdue
      | fresh due fetch result after => simp [due] at hdue
      | failed reason due next fetch result after => simp [next] at hnext
      | crashed message due next fetch result after => simp [next] at hnext
      | refreshed brought due next fetch result after =>
        obtain rfl : brought = token := by simpa [next] using hnext
        -- The new token was not held before, so it is kept until it is due.
        have hserves : ∀ reading ∈ later,
            (provider.counted.stored brought).credential.mustFetch? reading = some false := by
          intro reading hreading
          exact (Credential.mustFetch?_store (Credential.held_ne_of_isDue? hdue hnow)).trans
            (hfreshLater reading hreading)
        obtain ⟨hhistory, hresults⟩ := results_of_fresh hserves
        refine ⟨by simp [fetch, after, hhistory], [], by simp, ?_⟩
        rw [replies, List.map_cons, result, after, hresults]
        rfl
    | succ k =>
      -- This call fails and leaves the credential as it was.
      obtain ⟨⟨failure, hresult⟩, hafter, hfetch⟩ :=
        result_of_token?_none hdue (hfails 0 (Nat.succ_pos k))
      have hstale' : ∀ now ∈ later, provider.counted.credential.mustFetch? now = some true :=
        hstaleLater
      have hfails' : ∀ i < k,
          (provider.counted.backend (provider.counted.fetches + i)).token? = none := by
        intro i hi
        have hlater := hfails (i + 1) (by omega)
        rwa [← Nat.add_assoc, Nat.add_right_comm] at hlater
      have hnext' : provider.counted.backend (provider.counted.fetches + k) = .token token := by
        rwa [← Nat.add_assoc, Nat.add_right_comm] at hnext
      obtain ⟨ihhistory, failures, ihlength, ihresults⟩ :=
        ih k hstale' hfails' hnext' hfreshLater
      refine ⟨?_, failure :: failures, ?_, ?_⟩
      · rw [history_cons, hfetch, hafter, List.length_append, ihhistory]
        simp only [Option.toList_some, List.length_cons, List.length_nil]
        omega
      · rw [List.length_cons, List.length_cons, ihlength]
        omega
      · rw [replies, List.map_cons, hresult, hafter, ihresults, List.length_cons,
          Nat.add_sub_add_right]
        rfl

end Provider

/-! ### Threads -/

namespace SharedProvider

/-- **Callers that find a credential stale share one refresh.**  Take any run of threads from a
state without a call in progress to one with the lock free, in which the credential held at the
start is stale at every reading of the clock.  If the back end first fails or crashes `k` times and
then brings a token that is due at none of the readings, then of the callers, in the order in which
they took the lock, the first `k` fail and all others get that one token, and there are no more
fetches than those `k + 1`.  If it does not fail at all, there is one fetch and all get its
token. -/
theorem callers_share_refresh {ι : Type} [DecidableEq ι] {start s : SharedProvider ι}
    {events : List (Event ι)} (quiet : start.Quiet) (run : Run start events s)
    (unlocked : s.locked = false) (k : ℕ) (token : BearerToken)
    (stale : ∀ call ∈ events.filterMap Event.checked?,
      start.provider.credential.mustFetch? call.2 = some true)
    (fails : ∀ i < k, (start.provider.backend (start.provider.fetches + i)).token? = none)
    (next : start.provider.backend (start.provider.fetches + k) = .token token)
    (fresh : ∀ call ∈ events.filterMap Event.checked?, token.isDue? call.2 = some false) :
    let callers := events.filterMap Event.acquired?
    let fetches := events.filterMap Event.fetched?
    let results := events.filterMap Event.ended?
    let answer : Grant := ⟨start.provider.billedProject, token.value⟩
    fetches.length = min (k + 1) callers.length ∧
    results.map Prod.fst = callers ∧
    (∃ failures : List CallFailure, failures.length = min k callers.length ∧
      results.map Prod.snd =
        failures.map .error ++ List.replicate (callers.length - k) (.ok answer)) ∧
    (k = 0 → callers ≠ [] →
      fetches.length = 1 ∧ ∀ result ∈ results, result.2 = .ok answer) := by
  intro callers fetches results answer
  -- The run shows what the calls in the order of the lock show, and those are counted already.
  obtain ⟨hcallers, hfetches, hresults, -⟩ := run.shows_calls quiet unlocked
  have hlength : callers.length =
      ((events.filterMap Event.checked?).map Prod.snd).length := by
    rw [show callers = _ from hcallers, List.length_map, List.length_map]
  have hstale : ∀ now ∈ (events.filterMap Event.checked?).map Prod.snd,
      start.provider.credential.mustFetch? now = some true := List.forall_mem_map.2 stale
  have hfresh : ∀ now ∈ (events.filterMap Event.checked?).map Prod.snd,
      token.isDue? now = some false := List.forall_mem_map.2 fresh
  obtain ⟨hhistory, failures, hfailures, hreplies⟩ :=
    Provider.results_of_stale k hstale fails next hfresh
  have hcount : fetches.length = min (k + 1) callers.length := by
    rw [show fetches = _ from hfetches, ← List.length_map Prod.snd, Provider.map_snd_fetchesOf,
      List.length_map, hhistory, hlength]
  have hanswers : results.map Prod.snd =
      failures.map .error ++ List.replicate (callers.length - k) (.ok answer) := by
    rw [show results = _ from hresults, Provider.map_snd_resultsOf, hreplies, hlength]
  refine ⟨hcount, ?_, ⟨failures, by rw [hfailures, hlength], hanswers⟩, fun hk hsome => ?_⟩
  · rw [show results = _ from hresults, show callers = _ from hcallers]
    exact Provider.map_fst_resultsOf _ _
  · subst hk
    have hnone : failures = [] := List.length_eq_zero_iff.1 (by rw [hfailures, Nat.zero_min])
    have hpos : 0 < callers.length := List.length_pos_iff.2 hsome
    refine ⟨by omega, fun result hresult => ?_⟩
    have hmem := List.mem_map_of_mem (f := Prod.snd) hresult
    rw [hanswers, hnone, List.map_nil, List.nil_append] at hmem
    exact List.eq_of_mem_replicate hmem

/-- Three threads at a poisoned lock, with a token that is about to expire and a back end that fails
once. -/
def staleShared : SharedProvider (Fin 3) :=
  ⟨⟨Backend.ofList [.failure "unreachable", .token ⟨"new", none⟩],
    ⟨"project", some cachedToken, false⟩, 0⟩, false, true, fun _ => .outside⟩

theorem callers_share_refresh_stale :
    ∃ (s : SharedProvider (Fin 3)) (events : List (Event (Fin 3))),
      staleShared.Quiet ∧ Run staleShared events s ∧ s.locked = false ∧
      events.filterMap Event.acquired? = [2, 0, 1] ∧
      (events.filterMap Event.fetched?).length = 2 ∧
      (events.filterMap Event.ended?).map Prod.fst = [2, 0, 1] ∧
      ∃ failure : CallFailure, (events.filterMap Event.ended?).map Prod.snd =
        [.error failure, .ok ⟨"project", "new"⟩, .ok ⟨"project", "new"⟩] := by
  have hquiet : staleShared.Quiet := ⟨rfl, fun _ => rfl⟩
  let calls : List (Fin 3 × Instant) := [(2, insideMargin), (0, insideMargin), (1, insideMargin)]
  obtain ⟨s, hrun, hunlocked⟩ := Run.exists_serial hquiet calls
  have hcallers : (staleShared.provider.serial calls).filterMap Event.acquired? = [2, 0, 1] := rfl
  obtain ⟨hfetches, hends, ⟨failures, hfailures, hresults⟩, -⟩ :=
    callers_share_refresh hquiet hrun hunlocked 1 ⟨"new", none⟩ (by decide +kernel)
      (by decide +kernel) rfl (by decide +kernel)
  rw [hcallers] at hfetches hends hfailures hresults
  obtain ⟨failure, rfl⟩ := List.length_eq_one_iff.1 hfailures
  exact ⟨s, _, hquiet, hrun, hunlocked, hcallers, hfetches, hends, failure, hresults⟩

end SharedProvider

end TelemetryAuth
