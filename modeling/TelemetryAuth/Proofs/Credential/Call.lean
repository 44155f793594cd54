import TelemetryAuth.Credential.Provider
import TelemetryAuth.Proofs.Instant

/-!
# What one call for a token does

The two questions about a token are read as statements about instants: a token has expired if its
expiry is not after the reading of the clock, and it is due if the same holds of the instant
`refreshMargin` seconds earlier.  A token that is not due has not expired
(`hasExpired_of_isDue?`).

`Provider.fetch?` is the fetch that a call makes, told from the number of fetches before and after
it.  `Provider.callCases` lists what a call can do: crash because the earlier instant cannot be
held, answer with the token held, or make one fetch, which brings a failure, a crash or a token.
All later proofs about calls go through these five cases.
-/

namespace TelemetryAuth

/-! ### Tokens -/

namespace BearerToken

variable {token : BearerToken} {now : Instant}

theorem hasExpired_iff :
    token.hasExpired now = true ↔ ∃ expiry, token.expiry = some expiry ∧ expiry ≤ now := by
  unfold hasExpired
  cases token.expiry <;> simp

theorem isDue?_eq_some_true_iff :
    token.isDue? now = some true ↔ ∃ expiry early, token.expiry = some expiry ∧
      expiry.minusSeconds? refreshMargin = some early ∧ early ≤ now := by
  unfold isDue?
  cases token.expiry <;> simp

theorem isDue?_eq_some_false_iff :
    token.isDue? now = some false ↔ ∀ expiry, token.expiry = some expiry →
      ∃ early, expiry.minusSeconds? refreshMargin = some early ∧ now < early := by
  unfold isDue?
  cases token.expiry <;> simp

/-- A token that is not due has not expired. -/
theorem hasExpired_of_isDue? (h : token.isDue? now = some false) :
    token.hasExpired now = false := by
  rw [← Bool.not_eq_true, hasExpired_iff]
  rintro ⟨expiry, hexpiry, hle⟩
  obtain ⟨early, hearly, hlt⟩ := isDue?_eq_some_false_iff.1 h expiry hexpiry
  have hbefore : early < expiry := Instant.minusSeconds?_lt (by decide) hearly
  exact absurd hle (not_le.2 (lt_trans hlt hbefore))

end BearerToken

/-! ### Credentials -/

namespace Credential

variable {credential : Credential} {now : Instant}

theorem mustFetch?_of_held_none (h : credential.held = none) :
    credential.mustFetch? now = some true := by
  simp [mustFetch?, h]

theorem mustFetch?_of_repeated {token : BearerToken} (h : credential.held = some token)
    (hr : credential.repeated = true) :
    credential.mustFetch? now = some (token.hasExpired now) := by
  simp [mustFetch?, h, hr]

theorem mustFetch?_of_not_repeated {token : BearerToken} (h : credential.held = some token)
    (hr : credential.repeated = false) : credential.mustFetch? now = token.isDue? now := by
  simp [mustFetch?, h, hr]

/-- A credential that needs no fetch holds a token.  It has not expired, and it is not due unless
the back end handed it out twice in a row. -/
theorem held_of_mustFetch?_false (h : credential.mustFetch? now = some false) :
    ∃ token, credential.held = some token ∧ token.hasExpired now = false ∧
      (credential.repeated = false → token.isDue? now = some false) := by
  cases hheld : credential.held with
  | none => simp [mustFetch?_of_held_none hheld] at h
  | some token =>
    refine ⟨token, rfl, ?_⟩
    cases hr : credential.repeated with
    | false =>
      rw [mustFetch?_of_not_repeated hheld hr] at h
      exact ⟨BearerToken.hasExpired_of_isDue? h, fun _ => h⟩
    | true =>
      rw [mustFetch?_of_repeated hheld hr] at h
      exact ⟨Option.some.inj h, fun hfalse => by simp at hfalse⟩

@[simp] theorem held_store (token : BearerToken) : (credential.store token).held = some token := rfl

theorem repeated_store_iff (token : BearerToken) :
    (credential.store token).repeated = true ↔ credential.held = some token := by
  simp [store]

theorem grant_of_held {token : BearerToken} (h : credential.held = some token) :
    credential.grant = ⟨credential.billedProject, token.value⟩ := by
  simp [grant, h]

end Credential

/-! ### Fetches -/

/-- The token that an outcome brings. -/
def FetchOutcome.token? : FetchOutcome → Option BearerToken
  | .token brought => some brought
  | .failure _ => none
  | .crash _ => none

/-- One fetch: the reading of the clock at which it was made, and what the back end answered. -/
structure Fetch where
  reading : Instant
  outcome : FetchOutcome
  deriving DecidableEq

namespace Provider

/-- The fetch that a call makes, if it makes one. -/
def fetch? (provider : Provider) (now : Instant) : Option Fetch :=
  if provider.fetches < (provider.grant now).after.fetches then
    some ⟨now, provider.backend provider.fetches⟩
  else none

/-- The provider after a fetch that left the credential alone. -/
def counted (provider : Provider) : Provider :=
  { provider with fetches := provider.fetches + 1 }

/-- The provider with a token in its credential. -/
def stored (provider : Provider) (token : BearerToken) : Provider :=
  { provider with credential := provider.credential.store token }

/-- What a call for the current token can do. -/
inductive CallCases (provider : Provider) (now : Instant) : Prop
  | overflow (due : provider.credential.mustFetch? now = none)
      (fetch : provider.fetch? now = none)
      (result : (provider.grant now).result = .error (.crash Credential.marginCrash))
      (after : (provider.grant now).after = provider)
  | fresh (due : provider.credential.mustFetch? now = some false)
      (fetch : provider.fetch? now = none)
      (result : (provider.grant now).result = .ok provider.credential.grant)
      (after : (provider.grant now).after = provider)
  | failed (reason : String) (due : provider.credential.mustFetch? now = some true)
      (next : provider.backend provider.fetches = .failure reason)
      (fetch : provider.fetch? now = some ⟨now, .failure reason⟩)
      (result : (provider.grant now).result = .error (.failed (.refreshFailed reason)))
      (after : (provider.grant now).after = provider.counted)
  | crashed (message : String) (due : provider.credential.mustFetch? now = some true)
      (next : provider.backend provider.fetches = .crash message)
      (fetch : provider.fetch? now = some ⟨now, .crash message⟩)
      (result : (provider.grant now).result = .error (.crash message))
      (after : (provider.grant now).after = provider.counted)
  | refreshed (token : BearerToken) (due : provider.credential.mustFetch? now = some true)
      (next : provider.backend provider.fetches = .token token)
      (fetch : provider.fetch? now = some ⟨now, .token token⟩)
      (result : (provider.grant now).result = .ok (provider.credential.store token).grant)
      (after : (provider.grant now).after = provider.counted.stored token)

theorem callCases (provider : Provider) (now : Instant) : provider.CallCases now := by
  cases hdue : provider.credential.mustFetch? now with
  | none =>
    refine .overflow hdue ?_ ?_ ?_ <;> simp [fetch?, grant, Credential.call, hdue]
  | some due =>
    cases due with
    | false =>
      refine .fresh hdue ?_ ?_ ?_ <;> simp [fetch?, grant, Credential.call, hdue]
    | true =>
      -- The credential is stale, so the back end decides.
      cases hnext : provider.backend provider.fetches with
      | failure reason =>
        refine .failed reason hdue hnext ?_ ?_ ?_ <;>
          simp [fetch?, grant, Credential.call, hdue, hnext, counted]
      | crash message =>
        refine .crashed message hdue hnext ?_ ?_ ?_ <;>
          simp [fetch?, grant, Credential.call, hdue, hnext, counted]
      | token token =>
        refine .refreshed token hdue hnext ?_ ?_ ?_ <;>
          simp [fetch?, grant, Credential.call, hdue, hnext, counted, stored]

end Provider

end TelemetryAuth
