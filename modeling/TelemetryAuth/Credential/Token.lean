import TelemetryAuth.Instant

/-!
# Access tokens

A token is a text with an optional expiry.  `hasExpired` compares the expiry with the clock.
`isDue?` does so `refreshMargin` seconds early, so that a token does not expire on its way to
the receiver; for an expiry in the first seconds of the range there is no such earlier instant, and
the question has no answer.

No diagnostic text shows the text of a token.
-/

namespace TelemetryAuth

/-- A bearer token with its expiry. -/
structure BearerToken where
  value : String
  expiry : Option Instant
  deriving DecidableEq

namespace BearerToken

/-- The seconds before its expiry from which on a token is refreshed before use. -/
def refreshMargin : Int := 10

/-- Whether the expiry has been reached. -/
def hasExpired (token : BearerToken) (now : Instant) : Bool :=
  match token.expiry with
  | none => false
  | some expiry => expiry ≤ now

/-- Whether the expiry is near or has been reached; `none` if that cannot be computed. -/
def isDue? (token : BearerToken) (now : Instant) : Option Bool :=
  match token.expiry with
  | none => some false
  | some expiry => (expiry.minusSeconds? refreshMargin).map fun early => decide (early ≤ now)

/-- The text that stands for a token's value. -/
def redacted : String := "\"<redacted>\""

/-- The diagnostic text of an expiry. -/
def expiryText : Option Instant → String
  | none => "None"
  | some expiry => "Some(" ++ expiry.text ++ ")"

/-- The diagnostic text of a token. -/
def debugText (token : BearerToken) : String :=
  "AccessToken \x7b value: " ++ redacted ++
    ", expires_at: " ++ expiryText token.expiry ++ " \x7d"

end BearerToken

end TelemetryAuth
