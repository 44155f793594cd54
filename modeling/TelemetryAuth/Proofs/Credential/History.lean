import TelemetryAuth.Proofs.Credential.Call

/-!
# A credential is the memory of its fetches

A run of calls is seen through its fetches (`Provider.history`), each with the reading of the clock
at which it was made and what the back end answered.  The state of a credential is a function of
that list alone: the token held is the last one fetched, and `repeated` says that the last two
fetched were equal.  `Credential.Remembers` is this invariant; a fetched token moves it on by one
token (`Remembers.store`), every call keeps it (`Remembers.grant`), and so does every run
(`Remembers.afterRun`).

The main result is `run_follows_history`: the invariant after every run from a new provider,
together with what the next call then answers.
-/

namespace TelemetryAuth

/-! ### Runs and their fetches -/

/-- The tokens that some fetches brought, in order. -/
def fetchedTokens (fetches : List Fetch) : List BearerToken :=
  fetches.filterMap (·.outcome.token?)

@[simp] theorem fetchedTokens_nil : fetchedTokens [] = [] := rfl

@[simp] theorem fetchedTokens_append (xs ys : List Fetch) :
    fetchedTokens (xs ++ ys) = fetchedTokens xs ++ fetchedTokens ys :=
  List.filterMap_append

namespace Provider

/-- The provider after a run of calls, one at each reading of the clock. -/
def afterRun (provider : Provider) (clock : List Instant) : Provider :=
  provider.afterReplies (provider.replies clock)

/-- The fetches of a run of calls, in order. -/
def history (provider : Provider) : List Instant → List Fetch
  | [] => []
  | now :: later => (provider.fetch? now).toList ++ history (provider.grant now).after later

@[simp] theorem afterRun_nil (provider : Provider) : provider.afterRun [] = provider := rfl

@[simp] theorem afterRun_cons (provider : Provider) (now : Instant) (later : List Instant) :
    provider.afterRun (now :: later) = (provider.grant now).after.afterRun later := by
  unfold afterRun afterReplies
  rw [replies, List.getLast?_cons]
  cases ((provider.grant now).after.replies later).getLast? <;> rfl

@[simp] theorem history_nil (provider : Provider) : provider.history [] = [] := rfl

@[simp] theorem history_cons (provider : Provider) (now : Instant) (later : List Instant) :
    provider.history (now :: later) =
      (provider.fetch? now).toList ++ (provider.grant now).after.history later := rfl

theorem afterRun_append (provider : Provider) (xs ys : List Instant) :
    provider.afterRun (xs ++ ys) = (provider.afterRun xs).afterRun ys := by
  induction xs generalizing provider with
  | nil => rfl
  | cons now xs ih => simp [ih]

theorem history_append (provider : Provider) (xs ys : List Instant) :
    provider.history (xs ++ ys) = provider.history xs ++ (provider.afterRun xs).history ys := by
  induction xs generalizing provider with
  | nil => rfl
  | cons now xs ih => simp [ih]

/-- A call moves the number of fetches on by the fetch that it makes. -/
theorem fetches_grant (provider : Provider) (now : Instant) :
    (provider.grant now).after.fetches =
      provider.fetches + (provider.fetch? now).toList.length := by
  cases provider.callCases now with
  | overflow due fetch result after => simp [fetch, after]
  | fresh due fetch result after => simp [fetch, after]
  | failed reason due next fetch result after => simp [fetch, after, counted]
  | crashed message due next fetch result after => simp [fetch, after, counted]
  | refreshed token due next fetch result after => simp [fetch, after, counted, stored]

/-- A fetch is answered with the next outcome of the back end. -/
theorem outcome_of_fetch? {provider : Provider} {now : Instant} {fetch : Fetch}
    (h : provider.fetch? now = some fetch) :
    fetch = ⟨now, provider.backend provider.fetches⟩ := by
  unfold fetch? at h
  split_ifs at h
  exact (Option.some.inj h).symm

theorem backend_grant (provider : Provider) (now : Instant) :
    (provider.grant now).after.backend = provider.backend := rfl

/-- **The fetches of a run get the outcomes of the back end in order**, none twice and none left
out. -/
theorem outcomes_history (provider : Provider) (clock : List Instant) :
    (provider.afterRun clock).fetches = provider.fetches + (provider.history clock).length ∧
      (provider.history clock).map (·.outcome) =
        (List.range' provider.fetches (provider.history clock).length).map provider.backend := by
  induction clock generalizing provider with
  | nil => simp
  | cons now later ih =>
    obtain ⟨hcount, houtcomes⟩ := ih (provider.grant now).after
    rw [fetches_grant, backend_grant] at houtcomes
    rw [afterRun_cons, history_cons, hcount, fetches_grant, List.map_append, houtcomes]
    -- A fetch of this call takes the first of the outcomes that are left, the later calls the rest.
    cases hfetch : provider.fetch? now with
    | none => simp
    | some fetch =>
      rw [outcome_of_fetch? hfetch]
      refine ⟨by simp; omega, ?_⟩
      simp [List.range'_succ]

end Provider

/-! ### The invariant -/

namespace Credential

/-- What a credential is after the tokens fetched so far. -/
structure Remembers (project : String) (tokens : List BearerToken) (credential : Credential) :
    Prop where
  /-- The project never changes. -/
  billedProject : credential.billedProject = project
  /-- The token held is the last one fetched. -/
  held : credential.held = tokens.getLast?
  /-- The mark says that the last two tokens fetched were equal. -/
  repeated : credential.repeated = true ↔ ∃ earlier token, tokens = earlier ++ [token, token]

theorem remembers_of_ofReported {reported : Option String} {credential : Credential}
    (h : ofReported reported = .ok credential) :
    reported = some credential.billedProject ∧
      credential.Remembers credential.billedProject [] := by
  unfold ofReported at h
  split at h
  · rename_i project hproject
    obtain rfl := Except.ok.inj h
    refine ⟨(Option.filter_eq_some_iff.1 hproject).1, rfl, rfl, ?_⟩
    simp
  · cases h

variable {project : String} {tokens : List BearerToken} {credential : Credential}

theorem Remembers.store (h : credential.Remembers project tokens) (token : BearerToken) :
    (credential.store token).Remembers project (tokens ++ [token]) where
  billedProject := h.billedProject
  held := by simp
  repeated := by
    -- The last two tokens are equal exactly if the new one was the last before.
    rw [repeated_store_iff, h.held, List.getLast?_eq_some_iff]
    constructor
    · rintro ⟨earlier, rfl⟩
      exact ⟨earlier, token, by simp⟩
    · rintro ⟨earlier, other, heq⟩
      have hsplit : tokens ++ [token] = (earlier ++ [other]) ++ [other] := by simpa using heq
      obtain ⟨htokens, htoken⟩ := List.append_inj' hsplit rfl
      obtain rfl : token = other := by simpa using htoken
      exact ⟨earlier, htokens⟩

/-- A call keeps the invariant: only a fetch that brings a token moves it on. -/
theorem Remembers.grant {provider : Provider} (h : provider.credential.Remembers project tokens)
    (now : Instant) :
    (provider.grant now).after.credential.Remembers project
      (tokens ++ fetchedTokens (provider.fetch? now).toList) := by
  cases provider.callCases now with
  | overflow due fetch result after => simpa [fetch, after] using h
  | fresh due fetch result after => simpa [fetch, after] using h
  | failed reason due next fetch result after =>
    simpa [fetch, after, Provider.counted, fetchedTokens, FetchOutcome.token?] using h
  | crashed message due next fetch result after =>
    simpa [fetch, after, Provider.counted, fetchedTokens, FetchOutcome.token?] using h
  | refreshed token due next fetch result after =>
    have hstored := h.store token
    simpa [fetch, after, Provider.counted, Provider.stored, fetchedTokens, FetchOutcome.token?]
      using hstored

/-- A run keeps the invariant. -/
theorem Remembers.afterRun {provider : Provider}
    (h : provider.credential.Remembers project tokens) (clock : List Instant) :
    (provider.afterRun clock).credential.Remembers project
      (tokens ++ fetchedTokens (provider.history clock)) := by
  induction clock generalizing provider tokens with
  | nil => simpa using h
  | cons now later ih =>
    have hlater := ih (h.grant now)
    simpa [List.append_assoc] using hlater

end Credential

/-! ### What a call answers -/

/-- A token may be handed out without a fetch while its expiry has not been reached and, unless the
back end has handed it out twice in a row, is more than `refreshMargin` seconds away. -/
def BearerToken.MayServe (token : BearerToken) (repeated : Bool) (now : Instant) : Prop :=
  ∀ expiry, token.expiry = some expiry →
    now < expiry ∧ (repeated = false →
      ∃ early, expiry.minusSeconds? BearerToken.refreshMargin = some early ∧ now < early)

theorem Credential.mayServe_of_mustFetch?_false {credential : Credential} {now : Instant}
    (h : credential.mustFetch? now = some false) :
    ∃ token, credential.held = some token ∧ token.MayServe credential.repeated now := by
  obtain ⟨token, hheld, hlive, hdue⟩ := held_of_mustFetch?_false h
  refine ⟨token, hheld, fun expiry hexpiry => ⟨?_, fun hr => ?_⟩⟩
  · rw [← Bool.not_eq_true, BearerToken.hasExpired_iff] at hlive
    exact not_le.1 fun hle => hlive ⟨expiry, hexpiry, hle⟩
  · exact BearerToken.isDue?_eq_some_false_iff.1 (hdue hr) expiry hexpiry

namespace Provider

variable {provider : Provider} {now : Instant}

/-- A call reports a failed refresh exactly if it made a fetch and that fetch failed. -/
theorem refreshFailed_iff {reason : String} :
    (provider.grant now).result = .error (.failed (.refreshFailed reason)) ↔
      provider.fetch? now = some ⟨now, .failure reason⟩ := by
  cases provider.callCases now with
  | overflow due fetch result after => simp [fetch, result]
  | fresh due fetch result after => simp [fetch, result]
  | failed reason due next fetch result after => simp [fetch, result]
  | crashed message due next fetch result after => simp [fetch, result]
  | refreshed token due next fetch result after => simp [fetch, result]

/-- An answer carries the project and the token that is held afterwards, which was fetched by the
call itself or may still be handed out. -/
theorem token_of_grant {answer : Grant} (h : (provider.grant now).result = .ok answer) :
    ∃ token, (provider.grant now).after.credential.held = some token ∧
      answer = ⟨provider.credential.billedProject, token.value⟩ ∧
      (provider.fetch? now = some ⟨now, .token token⟩ ∨
        provider.credential.held = some token ∧
          token.MayServe provider.credential.repeated now) := by
  cases provider.callCases now with
  | overflow due fetch result after => simp [result] at h
  | failed reason due next fetch result after => simp [result] at h
  | crashed message due next fetch result after => simp [result] at h
  | fresh due fetch result after =>
    obtain ⟨token, hheld, hserve⟩ := Credential.mayServe_of_mustFetch?_false due
    rw [result] at h
    obtain rfl := Except.ok.inj h
    exact ⟨token, by rw [after, hheld], Credential.grant_of_held hheld, .inr ⟨hheld, hserve⟩⟩
  | refreshed token due next fetch result after =>
    rw [result] at h
    obtain rfl := Except.ok.inj h
    exact ⟨token, by rw [after]; rfl, Credential.grant_of_held rfl, .inl fetch⟩

/-- A new provider has fetched nothing yet and remembers nothing. -/
theorem remembers_of_create {reported : Option String} {backend : Backend}
    (h : Provider.create reported backend = .ok provider) :
    reported = some provider.billedProject ∧ provider.fetches = 0 ∧ provider.backend = backend ∧
      provider.credential.Remembers provider.billedProject [] := by
  unfold Provider.create at h
  cases hcredential : Credential.ofReported reported with
  | error e => simp [hcredential, Except.map] at h
  | ok credential =>
    simp only [hcredential, Except.map, Except.ok.injEq] at h
    subst h
    obtain ⟨hreported, hremembers⟩ := Credential.remembers_of_ofReported hcredential
    exact ⟨hreported, rfl, rfl, hremembers⟩

/-- **A credential is the memory of its fetches.**  Take any run of calls on a new provider,
whatever the back end answers and the clock reads, and let `tokens` be what its fetches brought.

* The fetches got the outcomes of the back end in order; the token held is the last of `tokens`, the
  mark `repeated` says that the last two of them are equal, and the project is the one reported.
* The next call makes at most one fetch, and it reports a failed refresh exactly if it made a fetch
  that failed.
* If it answers, then with that project and with the last token fetched, its own fetch included;
  and this token was either fetched by the call itself or may still be handed out. -/
theorem run_follows_history {reported : Option String} {backend : Backend} {provider : Provider}
    (created : Provider.create reported backend = .ok provider) (clock : List Instant) :
    let here := provider.afterRun clock
    let tokens := fetchedTokens (provider.history clock)
    (provider.history clock).map (·.outcome) = (List.range here.fetches).map backend ∧
    here.credential.held = tokens.getLast? ∧
    (here.credential.repeated = true ↔ ∃ earlier token, tokens = earlier ++ [token, token]) ∧
    reported = some here.credential.billedProject ∧
    ∀ now,
      (here.grant now).after.fetches ≤ here.fetches + 1 ∧
      (∀ reason, (here.grant now).result = .error (.failed (.refreshFailed reason)) ↔
        here.fetch? now = some ⟨now, .failure reason⟩) ∧
      ∀ answer, (here.grant now).result = .ok answer →
        reported = some answer.billedProject ∧
        ∃ token, (fetchedTokens (provider.history (clock ++ [now]))).getLast? = some token ∧
          answer.token = token.value ∧
          (here.fetch? now = some ⟨now, .token token⟩ ∨
            here.credential.held = some token ∧
              token.MayServe here.credential.repeated now) := by
  intro here tokens
  obtain ⟨hreported, hfetches, hbackend, hnew⟩ := remembers_of_create created
  have hhere : here.credential.Remembers provider.billedProject tokens := by
    simpa using hnew.afterRun clock
  obtain ⟨hcount, houtcomes⟩ := outcomes_history provider clock
  refine ⟨?_, hhere.held, hhere.repeated, by rw [hreported, hhere.billedProject], fun now => ?_⟩
  · rw [houtcomes, hbackend, show here.fetches = _ from hcount, hfetches, Nat.zero_add,
      List.range_eq_range']
  · refine ⟨?_, fun reason => refreshFailed_iff, fun answer hanswer => ?_⟩
    · rw [fetches_grant]
      cases here.fetch? now <;> simp
    · -- The answer is read off the state after the call, which remembers one call more.
      obtain ⟨token, hheld, rfl, hsource⟩ := token_of_grant hanswer
      have hafter : (here.grant now).after.credential.Remembers provider.billedProject
          (fetchedTokens (provider.history (clock ++ [now]))) := by
        rw [history_append]
        simpa [here, tokens] using hhere.grant now
      rw [hafter.held] at hheld
      exact ⟨by rw [hreported, hhere.billedProject], token, hheld, rfl, hsource⟩

end Provider

/-! ### A back end that caches its token

It hands out one token, fails once and hands out the same token again, five seconds before the
token expires: after three calls the token counts as repeated and is kept. -/

/-- The expiry of the token that is handed out. -/
def cachedExpiry : Instant := ⟨1000, 0, by decide, by decide⟩

/-- The token that is handed out. -/
def cachedToken : BearerToken := ⟨"cached", some cachedExpiry⟩

/-- Five seconds before the token expires. -/
def insideMargin : Instant := ⟨995, 0, by decide, by decide⟩

/-- A back end that caches its token and fails once. -/
def cachingBackend : Backend :=
  Backend.ofList [.token cachedToken, .failure "unreachable", .token cachedToken]

/-- A new provider over that back end. -/
def cachingProvider : Provider := ⟨cachingBackend, ⟨"project", none, false⟩, 0⟩

theorem run_follows_history_cached :
    Provider.create (some "project") cachingBackend = .ok cachingProvider ∧
    let here := cachingProvider.afterRun [insideMargin, insideMargin, insideMargin]
    here.credential.held = some cachedToken ∧ here.credential.repeated = true ∧
      (here.grant insideMargin).result = .ok ⟨"project", "cached"⟩ ∧
      here.fetch? insideMargin = none ∧ cachedToken.MayServe true insideMargin := by
  have hcreated : Provider.create (some "project") cachingBackend = .ok cachingProvider := rfl
  have htokens : fetchedTokens (cachingProvider.history [insideMargin, insideMargin, insideMargin])
      = [cachedToken, cachedToken] := by decide +kernel
  have hanswer : ((cachingProvider.afterRun [insideMargin, insideMargin, insideMargin]).grant
      insideMargin).result = .ok ⟨"project", "cached"⟩ := by rfl
  have hfetch : (cachingProvider.afterRun [insideMargin, insideMargin, insideMargin]).fetch?
      insideMargin = none := by decide +kernel
  obtain ⟨-, hheld, hrepeated, -, hnext⟩ :=
    Provider.run_follows_history hcreated [insideMargin, insideMargin, insideMargin]
  rw [htokens] at hheld hrepeated
  have hmark := hrepeated.2 ⟨[], cachedToken, rfl⟩
  obtain ⟨-, token, -, -, hsource⟩ := (hnext insideMargin).2.2 _ hanswer
  rw [hfetch, hheld, hmark] at hsource
  obtain hsource | ⟨hsame, hserve⟩ := hsource
  · cases hsource
  · obtain rfl := Option.some.inj hsame
    exact ⟨hcreated, hheld, hmark, hanswer, hfetch, hserve⟩

end TelemetryAuth
