import TelemetryAuth.Proofs.Credential.Access

/-!
# When a use of a credential crashes

Whether a token is due is asked of the instant `refreshMargin` seconds before its expiry, and for an
expiry in the first seconds of the range there is no such instant (`BearerToken.LacksMargin`).  The
call that gets such a token from the back end still answers, but it leaves the token in the
credential, where the next call finds it and crashes before it makes a fetch.  As no fetch is made
any more the token stays for ever; so of all tokens fetched only the last can lack its margin
(`MarginsBeforeLast`), and it is never one that was handed out twice.

The main result is `use_crashes_iff`: a use crashes if its own fetch does or if such a token was
fetched at any time before, and for no other reason.
-/

namespace TelemetryAuth

/-! ### Tokens without a margin -/

/-- Whether there is no instant `refreshMargin` seconds before the expiry of a token. -/
def BearerToken.LacksMargin (token : BearerToken) : Prop :=
  ∃ expiry, token.expiry = some expiry ∧
    expiry.seconds < Instant.earliest.seconds + BearerToken.refreshMargin

theorem BearerToken.isDue?_eq_none_iff {token : BearerToken} {now : Instant} :
    token.isDue? now = none ↔ token.LacksMargin := by
  unfold isDue? LacksMargin
  cases token.expiry with
  | none => simp
  | some expiry =>
    simp [Instant.minusSeconds?_eq_none_iff (t := expiry) (s := refreshMargin) (by decide)
      (by decide)]

/-- All tokens of a list but the last have a margin. -/
def MarginsBeforeLast (tokens : List BearerToken) : Prop :=
  ∀ token ∈ tokens.dropLast, ¬ token.LacksMargin

namespace Credential

variable {project : String} {tokens : List BearerToken} {credential : Credential} {now : Instant}

theorem mustFetch?_eq_none_iff :
    credential.mustFetch? now = none ↔ credential.repeated = false ∧
      ∃ token, credential.held = some token ∧ token.LacksMargin := by
  cases hheld : credential.held with
  | none => simp [mustFetch?_of_held_none hheld]
  | some token =>
    cases hrepeated : credential.repeated with
    | true => simp [mustFetch?_of_repeated hheld hrepeated]
    | false =>
      rw [mustFetch?_of_not_repeated hheld hrepeated, BearerToken.isDue?_eq_none_iff]
      simp

/-- A credential cannot tell whether it is stale once it has got a token without a margin. -/
theorem Remembers.mustFetch?_eq_none_iff (h : credential.Remembers project tokens)
    (hmargins : MarginsBeforeLast tokens) :
    credential.mustFetch? now = none ↔ ∃ token ∈ tokens, token.LacksMargin := by
  rw [Credential.mustFetch?_eq_none_iff, h.held]
  constructor
  · rintro ⟨-, token, hlast, hlacks⟩
    exact ⟨token, List.mem_of_getLast? hlast, hlacks⟩
  · rintro ⟨token, hmem, hlacks⟩
    obtain ⟨earlier, last, rfl⟩ : ∃ earlier last, tokens = earlier ++ [last] :=
      ⟨_, _, (List.dropLast_concat_getLast (List.ne_nil_of_mem hmem)).symm⟩
    have hearlier : ∀ other ∈ earlier, ¬ other.LacksMargin := by
      simpa [MarginsBeforeLast] using hmargins
    -- Only the last token can be the one without a margin.
    obtain rfl : token = last := by
      rcases List.mem_append.1 hmem with hbefore | hlast
      · exact absurd hlacks (hearlier token hbefore)
      · exact List.mem_singleton.1 hlast
    refine ⟨?_, token, by simp, hlacks⟩
    rw [← Bool.not_eq_true, h.repeated]
    rintro ⟨before, other, heq⟩
    have hsplit : earlier ++ [token] = (before ++ [other]) ++ [other] := by simpa using heq
    obtain ⟨hbefore, hother⟩ := List.append_inj' hsplit rfl
    obtain rfl : token = other := by simpa using hother
    exact hearlier token (by simp [hbefore]) hlacks

/-- A call gets no further token once it cannot tell whether the credential is stale. -/
theorem Remembers.marginsBeforeLast_grant {provider : Provider}
    (h : provider.credential.Remembers project tokens) (hmargins : MarginsBeforeLast tokens)
    (now : Instant) :
    MarginsBeforeLast (tokens ++ fetchedTokens (provider.fetch? now).toList) := by
  cases provider.callCases now with
  | overflow due fetch result after => simpa [fetch] using hmargins
  | fresh due fetch result after => simpa [fetch] using hmargins
  | failed reason due next fetch result after =>
    simpa [fetch, fetchedTokens, FetchOutcome.token?] using hmargins
  | crashed message due next fetch result after =>
    simpa [fetch, fetchedTokens, FetchOutcome.token?] using hmargins
  | refreshed token due next fetch result after =>
    have htokens : fetchedTokens (provider.fetch? now).toList = [token] := by
      simp [fetch, fetchedTokens, FetchOutcome.token?]
    rw [htokens]
    intro other hother hlacks
    rw [List.dropLast_concat] at hother
    have hstuck : provider.credential.mustFetch? now = none :=
      (h.mustFetch?_eq_none_iff hmargins).2 ⟨other, hother, hlacks⟩
    cases due.symm.trans hstuck

/-- In a run at most the last token fetched lacks its margin. -/
theorem Remembers.marginsBeforeLast_history {provider : Provider}
    (h : provider.credential.Remembers project tokens) (hmargins : MarginsBeforeLast tokens)
    (clock : List Instant) :
    MarginsBeforeLast (tokens ++ fetchedTokens (provider.history clock)) := by
  induction clock generalizing provider tokens with
  | nil => simpa using hmargins
  | cons now later ih =>
    have hlater := ih (h.grant now) (h.marginsBeforeLast_grant hmargins now)
    simpa [List.append_assoc] using hlater

end Credential

/-! ### Calls -/

namespace Provider

variable {provider : Provider} {now : Instant}

/-- A call crashes with its fetch or because it cannot tell whether the credential is stale. -/
theorem result_eq_crash_iff {message : String} :
    (provider.grant now).result = .error (.crash message) ↔
      provider.fetch? now = some ⟨now, .crash message⟩ ∨
        (provider.credential.mustFetch? now = none ∧ message = Credential.marginCrash) := by
  cases provider.callCases now with
  | overflow due fetch result after => simp [due, fetch, result, eq_comm]
  | fresh due fetch result after => simp [due, fetch, result]
  | failed reason due next fetch result after => simp [due, fetch, result]
  | crashed other due next fetch result after => simp [due, fetch, result]
  | refreshed token due next fetch result after => simp [due, fetch, result]

/-- A call that cannot tell whether the credential is stale changes nothing. -/
theorem grant_of_mustFetch?_none (h : provider.credential.mustFetch? now = none) :
    provider.fetch? now = none ∧ (provider.grant now).after = provider := by
  cases provider.callCases now with
  | overflow due fetch result after => exact ⟨fetch, after⟩
  | fresh due fetch result after => simp [due] at h
  | failed reason due next fetch result after => simp [due] at h
  | crashed message due next fetch result after => simp [due] at h
  | refreshed token due next fetch result after => simp [due] at h

/-- The tokens fetched in a run are tokens of the back end. -/
theorem exists_of_mem_fetchedTokens {clock : List Instant} {token : BearerToken}
    (h : token ∈ fetchedTokens (provider.history clock)) :
    ∃ n, provider.backend n = .token token := by
  obtain ⟨fetch, hfetch, htoken⟩ := List.mem_filterMap.1 h
  have houtcome := List.mem_map_of_mem (f := (·.outcome)) hfetch
  rw [(outcomes_history provider clock).2] at houtcome
  obtain ⟨n, -, hn⟩ := List.mem_map.1 houtcome
  refine ⟨n, hn.trans ?_⟩
  cases hfetched : fetch.outcome with
  | token brought =>
    rw [hfetched] at htoken
    rw [Option.some.inj htoken]
  | failure reason => simp [hfetched, FetchOutcome.token?] at htoken
  | crash message => simp [hfetched, FetchOutcome.token?] at htoken

end Provider

/-! ### Uses -/

/-- A use crashes exactly if its call for the token does. -/
theorem Use.answerTo_eq_crash_iff {way : Use} {call : Except CallFailure Grant}
    {message : String} :
    way.answerTo call = .error (.crash message) ↔ call = .error (.crash message) := by
  rcases call with (error | other) | grant <;> cases way <;> simp [answerTo, Except.map]

/-- **A use crashes with its own fetch, or because of an expiry at the beginning of time.**  Take
any steps with the credential of a new provider, and then one more use of any kind.

- It crashes if it makes a fetch that crashes, or if any fetch so far has brought a token whose
  expiry is less than `refreshMargin` seconds after the earliest instant; for no other reason.
- From such a token on, no use makes a fetch or changes anything.
- If the back end has no such token, a use crashes exactly if its own fetch does. -/
theorem use_crashes_iff {reported : Option String} {backend : Backend} {provider : Provider}
    {keyring : Keyring} {place : Nat} (created : Provider.create reported backend = .ok provider)
    (h : keyring[place]? = some provider) (accesses : List Access) (way : Use) (now : Instant) :
    let readings := accesses.filterMap Access.reading?
    let here := provider.afterRun readings
    let used := (Access.use way now).perform place (Access.after place keyring accesses)
    let stuck := ∃ token ∈ fetchedTokens (provider.history readings), token.LacksMargin
    (∀ message, used.result = .error (.crash message) ↔
      here.fetch? now = some ⟨now, .crash message⟩ ∨
        (stuck ∧ message = Credential.marginCrash)) ∧
    (stuck → here.fetch? now = none ∧ used.after = Access.after place keyring accesses) ∧
    ((∀ n token, backend n = .token token → ¬ token.LacksMargin) → ∀ message,
      used.result = .error (.crash message) ↔ here.fetch? now = some ⟨now, .crash message⟩) := by
  intro readings here used stuck
  obtain ⟨-, -, hbackend, hnew⟩ := Provider.remembers_of_create created
  have hremembers : here.credential.Remembers provider.billedProject
      (fetchedTokens (provider.history readings)) := by
    simpa using hnew.afterRun readings
  have hmargins : MarginsBeforeLast (fetchedTokens (provider.history readings)) := by
    simpa using hnew.marginsBeforeLast_history (by simp [MarginsBeforeLast]) readings
  have hstuck : here.credential.mustFetch? now = none ↔ stuck :=
    hremembers.mustFetch?_eq_none_iff hmargins
  -- The use is one call for the token of the provider that the steps have left.
  have hplace : place < keyring.length := (List.getElem?_eq_some_iff.1 h).1
  have hafter := Access.after_eq h accesses
  have hget : (Access.after place keyring accesses)[place]? = some here := by
    rw [hafter, List.getElem?_set_self hplace]
  obtain ⟨hkeyring, hresult⟩ := perform_use hget way now
  have hcrash : ∀ message, used.result = .error (.crash message) ↔
      here.fetch? now = some ⟨now, .crash message⟩ ∨
        (stuck ∧ message = Credential.marginCrash) := by
    intro message
    rw [show used.result = _ from hresult, Use.answerTo_eq_crash_iff,
      Provider.result_eq_crash_iff, hstuck]
  refine ⟨hcrash, fun hlacks => ?_, fun hnone message => ?_⟩
  · obtain ⟨hfetch, hsame⟩ := Provider.grant_of_mustFetch?_none (hstuck.2 hlacks)
    refine ⟨hfetch, ?_⟩
    rw [show used.after = _ from hkeyring, hsame, hafter, List.set_set]
  · have hfree : ¬ stuck := by
      rintro ⟨token, hmem, hlacks⟩
      obtain ⟨n, hn⟩ := Provider.exists_of_mem_fetchedTokens hmem
      exact hnone n token (hbackend ▸ hn) hlacks
    rw [hcrash, or_iff_left fun hboth => hfree hboth.1]

/-! ### A token that expires at the earliest instant -/

/-- A back end that hands out this token first and then one that never expires. -/
def earliestBackend : Backend :=
  Backend.ofList [.token ⟨"early", some .earliest⟩, .token ⟨"lasting", none⟩]

/-- A new provider over that back end. -/
def earliestProvider : Provider := ⟨earliestBackend, ⟨"project", none, false⟩, 0⟩

/-- The first call answers; the second crashes although it makes no fetch. -/
theorem crash_without_fetch :
    Provider.create (some "project") earliestBackend = .ok earliestProvider ∧
    let first := earliestProvider.grant insideMargin
    first.result = .ok ⟨"project", "early"⟩ ∧
      first.after.fetch? insideMargin = none ∧
      (first.after.grant insideMargin).result = .error (.crash Credential.marginCrash) := by
  refine ⟨rfl, rfl, ?_, rfl⟩
  decide +kernel

theorem use_crashes_iff_earliest :
    Provider.create (some "project") earliestBackend = .ok earliestProvider ∧
    [earliestProvider][0]? = some earliestProvider ∧
    let here := Access.after 0 [earliestProvider] [.use .token insideMargin]
    let used := (Access.use .headers insideMargin).perform 0 here
    used.result = .error (.crash Credential.marginCrash) ∧ used.after = here := by
  have hcreated : Provider.create (some "project") earliestBackend = .ok earliestProvider := rfl
  have hplace : [earliestProvider][0]? = some earliestProvider := rfl
  have htokens : fetchedTokens (earliestProvider.history [insideMargin]) =
      [⟨"early", some .earliest⟩] := by decide +kernel
  obtain ⟨hcrash, hstuck, -⟩ :=
    use_crashes_iff hcreated hplace [.use .token insideMargin] .headers insideMargin
  have hlacks : ∃ token ∈ fetchedTokens (earliestProvider.history [insideMargin]),
      token.LacksMargin := by
    rw [htokens]
    exact ⟨_, List.mem_singleton_self _, .earliest, rfl, by decide⟩
  exact ⟨hcreated, hplace, (hcrash _).2 (.inr ⟨hlacks, rfl⟩), (hstuck hlacks).2⟩

end TelemetryAuth
