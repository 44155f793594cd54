import TelemetryAuth.Hook.Grpc
import TelemetryAuth.Uri

/-!
# Authentication of a request over HTTP

A client wraps another one.  It asks its source for headers, sets them on the request and hands the
request on; the answer of the wrapped client is its own.  If the source fails or a header is not
well formed, the wrapped client is not called.
-/

namespace TelemetryAuth.Http

/-- A request. -/
structure Request where
  method : String
  uri : Uri
  headers : HeaderMap
  body : String
  deriving DecidableEq

/-- A response. -/
structure Response where
  status : Nat
  body : String
  deriving DecidableEq

/-- How a client answers a request: with a response, or with a failure in words. -/
abbrev Client := Request → Except String Response

/-- The wording for a header that a request cannot carry. -/
def faultMessage : HeaderFault → String
  | .name _ => "invalid HTTP header name"
  | .value _ => "failed to parse header value"

/-- An answer and the requests that the wrapped client has seen. -/
structure Exchange where
  answer : Except String Response
  sent : List Request

/-- Sends a request through a client with a set of headers attached. -/
def sendWith (client : Client) (request : Request) (headers : CallHeaders)
    (order : HeaderOrder := .byName) : Exchange :=
  match request.headers.attach Header.isName headers order with
  | .error fault => ⟨.error (faultMessage fault), []⟩
  | .ok headers =>
    let request := { request with headers }
    ⟨client request, [request]⟩

/-- Sends a request with the headers of a source.  A crash of the source is passed on. -/
def send (client : Client) (source : HeaderSource) (keyring : Keyring) (now : Instant)
    (request : Request) (order : HeaderOrder := .byName) : Reply Keyring Exchange :=
  let reply := source.headers keyring now
  match reply.result with
  | .ok headers => ⟨.ok (sendWith client request headers order), reply.after, reply.log⟩
  | .error (.failed error) =>
    ⟨.ok ⟨.error error.message, []⟩, reply.after, reply.log ++ [Grpc.droppedEntry error]⟩
  | .error (.crash message) => ⟨.error (.crash message), reply.after, reply.log⟩

/-- The diagnostic text of a client around one that is shown as `inner`. -/
def debugText (inner : String) : String :=
  "HeaderInjectingClient \x7b inner: " ++ inner ++ ", .. \x7d"

end TelemetryAuth.Http
