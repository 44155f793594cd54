import TelemetryAuth.Credential.Provider

/-!
# Authentication of a remote procedure call

Before a call is sent, the interceptor asks its source for headers and sets them as metadata.  A
failure of the source drops the call: with a status that exporters retry if the failure can be
retried, and as unauthenticated otherwise.  Metadata that is not well formed is an internal error.
-/

namespace TelemetryAuth.Grpc

/-- The status of a call that is dropped. -/
inductive StatusCode
  | internal
  | unavailable
  | unauthenticated
  deriving DecidableEq

/-- A status with its text. -/
structure Status where
  code : StatusCode
  message : String
  deriving DecidableEq

/-- The entry that records a call dropped for want of headers. -/
def droppedEntry (error : CredentialError) : Log.Entry :=
  .withMessage .warn "gcp_otlp_auth::gcp::auth" "Dropping export attempt without credentials"
    [("error", .shown error.message), ("retryable", .truth error.mayRetry)]

/-- The wording for a header that cannot be metadata. -/
def faultMessage : HeaderFault → String
  | .name name => "Invalid header name " ++ name ++ ": invalid gRPC metadata key name"
  | .value name => "Invalid header value for " ++ name ++ ": failed to parse metadata value"

/-- The status for a failure of the source. -/
def statusOfError (error : CredentialError) : Status :=
  ⟨if error.mayRetry then .unavailable else .unauthenticated, error.message⟩

/-- The metadata of a call after a set of headers has been attached to it. -/
def attachMetadata (existing : HeaderMap) (headers : CallHeaders)
    (order : HeaderOrder := .byName) : Except Status HeaderMap :=
  match existing.attach Header.isMetadataName headers order with
  | .ok metadata => .ok metadata
  | .error fault => .error ⟨.internal, faultMessage fault⟩

/-- How an interceptor ends: with the metadata of the call or with a status. -/
abbrev Intercepted := Except Status HeaderMap

/-- Intercepts a call that has some metadata already.  A crash of the source is passed on. -/
def intercept (source : HeaderSource) (keyring : Keyring) (now : Instant) (existing : HeaderMap)
    (order : HeaderOrder := .byName) : Reply Keyring Intercepted :=
  let reply := source.headers keyring now
  match reply.result with
  | .ok headers => ⟨.ok (attachMetadata existing headers order), reply.after, reply.log⟩
  | .error (.failed error) =>
    ⟨.ok (.error (statusOfError error)), reply.after, reply.log ++ [droppedEntry error]⟩
  | .error (.crash message) => ⟨.error (.crash message), reply.after, reply.log⟩

/-- The diagnostic text of an interceptor. -/
def debugText : String := "AuthInterceptor \x7b source: " ++ HeaderSource.debugText ++ " \x7d"

end TelemetryAuth.Grpc
