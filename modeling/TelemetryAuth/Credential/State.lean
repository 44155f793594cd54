import TelemetryAuth.Credential.Token
import TelemetryAuth.Error
import TelemetryAuth.Log.Entry

/-!
# The credential and its refresh

A credential is the project that calls are billed to and the token held last.  Every call for a
token looks at the clock first: a credential without a token is stale, a token is stale when its
expiry is near, and a token that the back end handed out twice in a row (`repeated`) is stale only
when it has expired, because asking again would bring the same token.  A stale credential is
refreshed by one fetch before the call answers.

`Credential.call` is that step as a pure function of the credential, the clock and what the back end
would answer.  A fetch that fails or crashes leaves the credential as it was.
-/

namespace TelemetryAuth

/-- What the back end answers to one fetch. -/
inductive FetchOutcome
  | token (token : BearerToken)
  | failure (reason : String)
  | crash (message : String)
  deriving DecidableEq

/-- How a call ends without an answer: with an error, or because it crashed. -/
inductive CallFailure
  | failed (error : CredentialError)
  | crash (message : String)
  deriving DecidableEq

/-- What a call for a token answers: the project to bill and the text of the token. -/
structure Grant where
  billedProject : String
  token : String
  deriving DecidableEq

namespace Grant

/-- The diagnostic text of a grant; it shows the project only. -/
def debugText (grant : Grant) : String :=
  "TokenSnapshot \x7b quota_project_id: " ++ Text.quote grant.billedProject ++
    ", token: " ++ BearerToken.redacted ++ " \x7d"

end Grant

/-- The credential that all exporters share. -/
structure Credential where
  billedProject : String
  held : Option BearerToken
  repeated : Bool
  deriving DecidableEq

namespace Credential

/-- The target of what the credential logs. -/
def logTarget : String := "gcp_otlp_auth::gcp::credentials"

/-- The reason given when a back end reports no project. -/
def noProject : String := "credentials carry no quota project"

/-- The text of the crash when the instant before an expiry cannot be held. -/
def marginCrash : String := "\x60DateTime - TimeDelta\x60 overflowed"

/-- A credential for the project that the back end reports; an empty project counts as none. -/
def ofReported (reported : Option String) : Except CredentialError Credential :=
  match RequiredOption.nonEmpty? reported with
  | some project => .ok ⟨project, none, false⟩
  | none => .error (.noIdentity noProject)

/-- The entry that records a new credential. -/
def createdEntry (credential : Credential) : Log.Entry :=
  .withMessage .info logTarget "Ambient credentials initialized"
    [("quota_project_id", .shown credential.billedProject)]

/-- The entry that records the start of a refresh. -/
def refreshingEntry : Log.Entry := .withMessage .debug logTarget "Refreshing access token" []

/-- The entry that records a refresh; of the token it shows the expiry only. -/
def refreshedEntry (token : BearerToken) : Log.Entry :=
  .withMessage .debug logTarget "Access token refreshed"
    [("expires_at", .shown (BearerToken.expiryText token.expiry))]

/-- Whether the credential must be refreshed before use; `none` if that cannot be computed. -/
def mustFetch? (credential : Credential) (now : Instant) : Option Bool :=
  match credential.held with
  | none => some true
  | some token =>
    if credential.repeated then some (token.hasExpired now) else token.isDue? now

/-- The credential after a token has been fetched. -/
def store (credential : Credential) (token : BearerToken) : Credential :=
  { credential with held := some token, repeated := decide (credential.held = some token) }

/-- What the credential answers with the token it holds. -/
def grant (credential : Credential) : Grant :=
  ⟨credential.billedProject, (credential.held.map (·.value)).getD ""⟩

/-- A call: its result, the credential after it, whether it made a fetch, and what it logged. -/
structure Call where
  result : Except CallFailure Grant
  after : Credential
  fetched : Bool
  log : List Log.Entry

/-- A call for a token at an instant, if the back end answers a fetch with `next`. -/
def call (credential : Credential) (now : Instant) (next : FetchOutcome) : Call :=
  match credential.mustFetch? now with
  | none => ⟨.error (.crash marginCrash), credential, false, []⟩
  | some false => ⟨.ok credential.grant, credential, false, []⟩
  | some true =>
    match next with
    | .failure reason =>
      ⟨.error (.failed (.refreshFailed reason)), credential, true, [refreshingEntry]⟩
    | .crash message => ⟨.error (.crash message), credential, true, [refreshingEntry]⟩
    | .token token =>
      ⟨.ok (credential.store token).grant, credential.store token, true,
        [refreshingEntry, refreshedEntry token]⟩

/-- The diagnostic text of the credential; it names the project only. -/
def debugText (credential : Credential) : String :=
  "CredentialProvider \x7b quota_project_id: " ++ Text.quote credential.billedProject ++ ", .. \x7d"

end Credential

end TelemetryAuth
