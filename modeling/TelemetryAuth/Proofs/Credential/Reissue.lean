import Mathlib.Data.List.Count
import Mathlib.Data.List.Induction
import TelemetryAuth.Proofs.Credential.History

/-!
# A back end that hands out one token again and again

A back end may answer a refresh with the token that is held already, as one that caches its tokens
does.  It is then left alone until that token has expired.  The reason is the mark `repeated`: each
fetch of a run was due for the credential that remembers the tokens fetched before it
(`due_of_history`), so behind two equal tokens a fetch is made at the expiry or later
(`expiry_le_of_repeated`), and behind a token without expiry none is made at all
(`expiry_ne_none_of_due`).

The main result is `repeated_token_not_hammered`, for any stretch of the fetches of a run in which
no other token was fetched.
-/

namespace TelemetryAuth

/-! ### Lists -/

/-- If behind the first `n` elements with `P` none has `Q`, at most `n` elements have both. -/
theorem countP_and_le {α : Type} (P Q : α → Prop) [DecidablePred P] [DecidablePred Q] (n : ℕ)
    (xs : List α)
    (h : ∀ first x later, xs = first ++ x :: later → n ≤ first.countP (P ·) → ¬ Q x) :
    xs.countP (fun x => P x ∧ Q x) ≤ n := by
  induction xs using List.reverseRecOn with
  | nil => simp
  | append_singleton xs x ih =>
    have hinit : xs.countP (fun x => P x ∧ Q x) ≤ n :=
      ih fun first y later heq hcount => h first y (later ++ [x]) (by simp [heq]) hcount
    rw [List.countP_append, List.countP_singleton]
    by_cases hboth : P x ∧ Q x
    · -- The last element has both, so fewer than `n` before it have `P`.
      have hfew : xs.countP (P ·) < n := by
        by_contra hmany
        exact h xs x [] rfl (by omega) hboth.2
      have hle : xs.countP (fun x => P x ∧ Q x) ≤ xs.countP (P ·) :=
        List.countP_mono_left fun y _ hy => by
          simp only [decide_eq_true_eq] at hy ⊢
          exact hy.1
      simp only [hboth, and_self, decide_true, ite_true]
      omega
    · simp only [hboth, decide_false, Bool.false_eq_true, ite_false]
      omega

/-- A list of two or more equal elements ends with two of them. -/
theorem eq_append_pair_of_forall_eq {α : Type} {x : α} {xs : List α} (h : ∀ y ∈ xs, y = x)
    (hlength : 2 ≤ xs.length) : ∃ earlier, xs = earlier ++ [x, x] := by
  refine ⟨List.replicate (xs.length - 2) x, ?_⟩
  have hxs : xs = List.replicate xs.length x := List.eq_replicate_iff.2 ⟨rfl, h⟩
  have htwo : [x, x] = List.replicate 2 x := rfl
  rw [htwo, List.replicate_append_replicate, Nat.sub_add_cancel hlength]
  exact hxs

/-! ### The fetches of a run were due -/

namespace Provider

theorem due_of_fetch? {provider : Provider} {now : Instant} {fetch : Fetch}
    (h : provider.fetch? now = some fetch) :
    fetch.reading = now ∧ provider.credential.mustFetch? now = some true := by
  refine ⟨by rw [outcome_of_fetch? h], ?_⟩
  cases provider.callCases now with
  | overflow due none result after => simp [none] at h
  | fresh due none result after => simp [none] at h
  | failed reason due next some result after => exact due
  | crashed message due next some result after => exact due
  | refreshed token due next some result after => exact due

/-- Each fetch of a run was made by a call behind the calls that made the fetches before it. -/
theorem fetch?_of_history {provider : Provider} {clock : List Instant}
    {before later : List Fetch} {fetch : Fetch}
    (h : provider.history clock = before ++ fetch :: later) :
    ∃ earlier now, provider.history earlier = before ∧
      (provider.afterRun earlier).fetch? now = some fetch := by
  induction clock generalizing provider before with
  | nil => simp at h
  | cons now clock ih =>
    rw [history_cons] at h
    cases hfetch : provider.fetch? now with
    | none =>
      rw [hfetch] at h
      obtain ⟨earlier, reading, hbefore, hmade⟩ := ih h
      exact ⟨now :: earlier, reading, by simp [hfetch, hbefore], by simpa using hmade⟩
    | some made =>
      rw [hfetch] at h
      -- The fetch of this call is the one looked for or one of those before it.
      cases before with
      | nil =>
        obtain rfl : made = fetch := (List.cons.inj h).1
        exact ⟨[], now, rfl, hfetch⟩
      | cons head before =>
        obtain ⟨rfl, htail⟩ := List.cons.inj h
        obtain ⟨earlier, reading, hbefore, hlater⟩ := ih htail
        exact ⟨now :: earlier, reading, by simp [hfetch, hbefore], by simpa using hlater⟩

end Provider

/-- A fetch of a run was due for the credential that remembers the tokens fetched before it. -/
theorem Credential.Remembers.due_of_history {project : String} {provider : Provider}
    (h : provider.credential.Remembers project []) {clock : List Instant}
    {before later : List Fetch} {fetch : Fetch}
    (hrun : provider.history clock = before ++ fetch :: later) :
    ∃ credential : Credential, credential.Remembers project (fetchedTokens before) ∧
      credential.mustFetch? fetch.reading = some true := by
  obtain ⟨earlier, now, rfl, hmade⟩ := Provider.fetch?_of_history hrun
  obtain ⟨rfl, hdue⟩ := Provider.due_of_fetch? hmade
  exact ⟨_, by simpa using h.afterRun earlier, hdue⟩

namespace Credential

variable {project : String} {tokens : List BearerToken} {credential : Credential}
  {token : BearerToken} {now : Instant}

/-- Behind two equal tokens the next fetch is not due before they expire. -/
theorem Remembers.expiry_le_of_repeated (h : credential.Remembers project tokens)
    (htokens : ∃ earlier, tokens = earlier ++ [token, token])
    (hdue : credential.mustFetch? now = some true) :
    ∃ expiry, token.expiry = some expiry ∧ expiry ≤ now := by
  obtain ⟨earlier, rfl⟩ := htokens
  have hheld : credential.held = some token := by simpa using h.held
  have hrepeated : credential.repeated = true := h.repeated.2 ⟨earlier, token, rfl⟩
  rw [mustFetch?_of_repeated hheld hrepeated] at hdue
  exact BearerToken.hasExpired_iff.1 (Option.some.inj hdue)

/-- Behind a token without expiry no fetch is due. -/
theorem Remembers.expiry_ne_none_of_due (h : credential.Remembers project tokens)
    (htokens : tokens.getLast? = some token) (hdue : credential.mustFetch? now = some true) :
    token.expiry ≠ none := by
  have hheld : credential.held = some token := h.held.trans htokens
  cases hrepeated : credential.repeated with
  | false =>
    rw [mustFetch?_of_not_repeated hheld hrepeated, BearerToken.isDue?_eq_some_true_iff] at hdue
    obtain ⟨expiry, early, hexpiry, -, -⟩ := hdue
    simp [hexpiry]
  | true =>
    rw [mustFetch?_of_repeated hheld hrepeated, Option.some.injEq,
      BearerToken.hasExpired_iff] at hdue
    obtain ⟨expiry, hexpiry, -⟩ := hdue
    simp [hexpiry]

end Credential

/-! ### The bound -/

/-- As many tokens were fetched as there are fetches that brought one, so at least as many as there
are fetches that brought a certain one. -/
theorem countP_le_length_fetchedTokens (token : BearerToken) (fetches : List Fetch) :
    fetches.countP (fun fetch => fetch.outcome = .token token) ≤
      (fetchedTokens fetches).length := by
  unfold fetchedTokens
  rw [List.length_filterMap_eq_countP]
  refine List.countP_mono_left fun fetch _ hfetch => ?_
  simp only [decide_eq_true_eq] at hfetch
  simp [hfetch, FetchOutcome.token?]

namespace Provider

variable {project : String} {provider : Provider} {clock : List Instant} {token : BearerToken}
  {before block first later rest : List Fetch} {fetch : Fetch}

/-- A fetch behind two fetches of one token, with no other token in between, is made when that
token has expired. -/
theorem expiry_le_of_history (hnew : provider.credential.Remembers project [])
    (hrun : provider.history clock = before ++ first ++ fetch :: later)
    (hsame : ∀ other ∈ fetchedTokens first, other = token)
    (hcount : 2 ≤ (fetchedTokens first).length) {expiry : Instant}
    (hexpiry : token.expiry = some expiry) : expiry ≤ fetch.reading := by
  obtain ⟨credential, hremembers, hdue⟩ := hnew.due_of_history hrun
  obtain ⟨earlier, hpair⟩ := eq_append_pair_of_forall_eq hsame hcount
  have htokens : fetchedTokens (before ++ first) =
      (fetchedTokens before ++ earlier) ++ [token, token] := by simp [hpair]
  obtain ⟨instant, hinstant, hle⟩ := hremembers.expiry_le_of_repeated ⟨_, htokens⟩ hdue
  obtain rfl : expiry = instant := Option.some.inj (hexpiry.symm.trans hinstant)
  exact hle

/-- Once two fetches of a block have brought the token, no later fetch of the block is made before
it expires, nor is the one behind the block. -/
theorem expiry_le_of_block (hnew : provider.credential.Remembers project [])
    (hrun : provider.history clock = before ++ block ++ rest)
    (hsame : ∀ other ∈ fetchedTokens block, other = token)
    (hblock : block ++ rest.take 1 = first ++ fetch :: later)
    (hcount : 2 ≤ (fetchedTokens first).length) {expiry : Instant}
    (hexpiry : token.expiry = some expiry) : expiry ≤ fetch.reading := by
  -- At most one fetch stands behind the block, so `first` lies inside it.
  have hprefix : first <+: block := by
    refine List.prefix_of_prefix_length_le ⟨fetch :: later, hblock.symm⟩
      (List.prefix_append _ _) ?_
    have hlength := congrArg List.length hblock
    simp only [List.length_append, List.length_cons, List.length_take] at hlength
    omega
  have hfirst : ∀ other ∈ fetchedTokens first, other = token := by
    obtain ⟨tail, rfl⟩ := hprefix
    exact fun other hother => hsame other (by simp [hother])
  have hsplit : provider.history clock =
      before ++ first ++ fetch :: (later ++ rest.drop 1) := by
    calc provider.history clock
        = before ++ (block ++ rest.take 1) ++ rest.drop 1 := by
          rw [hrun, ← List.append_assoc before, List.append_assoc _ (rest.take 1),
            List.take_append_drop]
      _ = before ++ first ++ fetch :: (later ++ rest.drop 1) := by rw [hblock]; simp
  exact expiry_le_of_history hnew hsplit hfirst hcount hexpiry

/-- No fetch follows the fetch of a token without expiry. -/
theorem eq_nil_of_history (hnew : provider.credential.Remembers project [])
    (hrun : provider.history clock = before ++ fetch :: later)
    (hbrought : fetch.outcome = .token token) (hexpiry : token.expiry = none) : later = [] := by
  cases later with
  | nil => rfl
  | cons next more =>
    have hnext : provider.history clock = (before ++ [fetch]) ++ next :: more := by simp [hrun]
    obtain ⟨credential, hremembers, hdue⟩ := hnew.due_of_history hnext
    have hlast : (fetchedTokens (before ++ [fetch])).getLast? = some token := by
      simp [fetchedTokens, hbrought, FetchOutcome.token?]
    exact absurd hexpiry (hremembers.expiry_ne_none_of_due hlast hdue)

/-- **A back end that caches its token is not hammered.**  Take any run of calls on a new provider,
whatever the back end answers and the clock reads, and a `block` of its fetches, failed ones
included, in which no token but `token` was fetched.

* If the token expires, at most two fetches of the block brought it before its expiry; and once two
  have brought it, no later fetch is attempted before its expiry, be it in the block or the one
  behind it that brings another token.
* If it never expires, the fetch that brings it is the last of the whole run. -/
theorem repeated_token_not_hammered {reported : Option String} {backend : Backend}
    {provider : Provider} (created : Provider.create reported backend = .ok provider)
    (clock : List Instant) (token : BearerToken) {before block rest : List Fetch}
    (run : provider.history clock = before ++ block ++ rest)
    (same : ∀ other ∈ fetchedTokens block, other = token) :
    (∀ expiry, token.expiry = some expiry →
      block.countP (fun fetch => fetch.outcome = .token token ∧ fetch.reading < expiry) ≤ 2 ∧
      ∀ first fetch later, block ++ rest.take 1 = first ++ fetch :: later →
        2 ≤ (fetchedTokens first).length → expiry ≤ fetch.reading) ∧
    (token.expiry = none → ∀ first fetch later, block = first ++ fetch :: later →
      fetch.outcome = .token token → later = [] ∧ rest = []) := by
  obtain ⟨-, -, -, hnew⟩ := Provider.remembers_of_create created
  constructor
  · intro expiry hexpiry
    have hlate : ∀ first fetch later, block ++ rest.take 1 = first ++ fetch :: later →
        2 ≤ (fetchedTokens first).length → expiry ≤ fetch.reading := by
      intro first fetch later hblock hcount
      exact expiry_le_of_block hnew run same hblock hcount hexpiry
    refine ⟨countP_and_le _ _ 2 block fun first fetch later hblock hcount => ?_, hlate⟩
    exact not_lt.2 (hlate first fetch (later ++ rest.take 1) (by simp [hblock])
      (Nat.le_trans hcount (countP_le_length_fetchedTokens token first)))
  · intro hnone first fetch later hblock hbrought
    have hrun : provider.history clock = (before ++ first) ++ fetch :: (later ++ rest) := by
      rw [run, hblock]
      simp
    simpa using eq_nil_of_history hnew hrun hbrought hnone

/-- The fetches of five calls before the expiry of the token and one at it. -/
def cachedFetches : List Fetch :=
  [⟨insideMargin, .token cachedToken⟩, ⟨insideMargin, .failure "unreachable"⟩,
    ⟨insideMargin, .token cachedToken⟩, ⟨cachedExpiry, .token cachedToken⟩]

theorem repeated_token_not_hammered_cached :
    Provider.create (some "project") cachingBackend = .ok cachingProvider ∧
    cachingProvider.history (List.replicate 5 insideMargin ++ [cachedExpiry]) =
      [] ++ cachedFetches ++ [] ∧
    (∀ other ∈ fetchedTokens cachedFetches, other = cachedToken) ∧
    cachedFetches.countP (fun fetch =>
      fetch.outcome = .token cachedToken ∧ fetch.reading < cachedExpiry) ≤ 2 ∧
    ∀ first fetch later, cachedFetches = first ++ fetch :: later →
      2 ≤ (fetchedTokens first).length → cachedExpiry ≤ fetch.reading := by
  have hcreated : Provider.create (some "project") cachingBackend = .ok cachingProvider := rfl
  have hrun : cachingProvider.history (List.replicate 5 insideMargin ++ [cachedExpiry]) =
      [] ++ cachedFetches ++ [] := by decide +kernel
  have hsame : ∀ other ∈ fetchedTokens cachedFetches, other = cachedToken := by decide +kernel
  obtain ⟨hcount, hlate⟩ :=
    (repeated_token_not_hammered hcreated _ cachedToken hrun hsame).1 cachedExpiry rfl
  exact ⟨hcreated, hrun, hsame, hcount, fun first fetch later h => hlate first fetch later h⟩

end Provider

end TelemetryAuth
