import TelemetryAuth.Credential.State
import TelemetryAuth.Header.Multimap

/-!
# Providers of tokens and headers

A `Provider` is a credential together with the back end that refreshes it.  A back end is a sequence
of outcomes: fetch number `n` is answered with the `n`th, whatever call makes it.

An exporter gets its headers from a `HeaderSource`: fixed headers, a fixed failure, or a provider.
Several sources may share one provider, so providers live side by side in a `Keyring` and a source
names one by its place.
-/

namespace TelemetryAuth

/-- The answers of a back end to its fetches, in order. -/
abbrev Backend := Nat → FetchOutcome

namespace Backend

/-- The back end that answers with the outcomes of a list and then repeats the last one; without any
outcome every fetch fails for want of a token. -/
def ofList (outcomes : List FetchOutcome) : Backend := fun n =>
  (outcomes[n]?.or outcomes.getLast?).getD (.failure "no token")

end Backend

/-- A credential, its back end, and the number of fetches made so far. -/
structure Provider where
  backend : Backend
  credential : Credential
  fetches : Nat

/-- A result, the state after it, and what was logged on the way. -/
structure Reply (σ α : Type) where
  result : Except CallFailure α
  after : σ
  log : List Log.Entry

namespace Reply

variable {σ α β : Type}

/-- Changes the answer of a reply that has one. -/
def map (f : α → β) (reply : Reply σ α) : Reply σ β :=
  ⟨reply.result.map f, reply.after, reply.log⟩

/-- The replies of a run up to the first crash, which is the last reply that is kept. -/
def untilCrash : List (Reply σ α) → List (Reply σ α)
  | [] => []
  | reply :: rest =>
    match reply.result with
    | .error (.crash _) => [reply]
    | _ => reply :: untilCrash rest

/-- What a run hands over when it ends: the results of all its calls, or its crash alone. -/
def handedOver (replies : List (Reply σ α)) : List (Except CallFailure α) :=
  match replies.getLast? with
  | some ⟨.error (.crash message), _, _⟩ => [.error (.crash message)]
  | _ => replies.map (·.result)

end Reply

namespace Provider

/-- A provider over a back end that reports a project. -/
def create (reported : Option String) (backend : Backend) : Except CredentialError Provider :=
  (Credential.ofReported reported).map fun credential => ⟨backend, credential, 0⟩

/-- A call for the current token. -/
def grant (provider : Provider) (now : Instant) : Reply Provider Grant :=
  let call := provider.credential.call now (provider.backend provider.fetches)
  ⟨call.result,
    { provider with
      credential := call.after
      fetches := if call.fetched then provider.fetches + 1 else provider.fetches },
    call.log⟩

/-- The project that calls are billed to. -/
def billedProject (provider : Provider) : String := provider.credential.billedProject

/-! ### Runs of calls -/

/-- The replies to calls that follow each other, one call at each reading of the clock. -/
def replies (provider : Provider) : List Instant → List (Reply Provider Grant)
  | [] => []
  | now :: later =>
    let reply := provider.grant now
    reply :: replies reply.after later

/-- The provider after a run of calls. -/
def afterReplies (provider : Provider) (replies : List (Reply Provider Grant)) : Provider :=
  (replies.getLast?.map (·.after)).getD provider

/-- The calls of one thread, which ends with the first call that crashes. -/
def thread (provider : Provider) (clock : List Instant) : List (Reply Provider Grant) :=
  Reply.untilCrash (provider.replies clock)

/-- The calls of several threads, and the provider after them.  The credential is locked for each
call, so threads take turns; here each makes all its calls before the next begins. -/
def threads (provider : Provider) :
    List (List Instant) → List (List (Reply Provider Grant)) × Provider
  | [] => ([], provider)
  | clock :: clocks =>
    let calls := provider.thread clock
    let (others, after) := threads (provider.afterReplies calls) clocks
    (calls :: others, after)

end Provider

/-! ### Headers -/

namespace CallHeaders

/-- The name of the header that names the project to bill. -/
def billedProjectName : String := "X-Goog-User-Project"

/-- The name of the header that carries the token. -/
def authorizationName : String := "Authorization"

/-- The headers that authenticate a call. -/
def ofGrant (grant : Grant) : CallHeaders :=
  Dictionary.ofList [
    (billedProjectName, grant.billedProject),
    (authorizationName, "Bearer " ++ grant.token)]

end CallHeaders

/-- The headers that authenticate a call, from a token that is checked now. -/
def Provider.headers (provider : Provider) (now : Instant) : Reply Provider CallHeaders :=
  (provider.grant now).map CallHeaders.ofGrant

/-- Providers side by side. -/
abbrev Keyring := List Provider

/-- Where an exporter gets the headers of a call from. -/
inductive HeaderSource
  | fixed (headers : CallHeaders)
  | failing (error : CredentialError)
  | credentials (place : Nat)
  deriving DecidableEq

namespace HeaderSource

/-- The diagnostic text of a source, which says nothing of its headers. -/
def debugText : String := "HeaderSource(..)"

/-- The headers of a source at an instant. -/
def headers (source : HeaderSource) (keyring : Keyring) (now : Instant) :
    Reply Keyring CallHeaders :=
  match source with
  | .fixed headers => ⟨.ok headers, keyring, []⟩
  | .failing error => ⟨.error (.failed error), keyring, []⟩
  | .credentials place =>
    match keyring[place]? with
    | none => ⟨.error (.failed (.noIdentity Credential.noProject)), keyring, []⟩
    | some provider =>
      let reply := provider.headers now
      ⟨reply.result, keyring.set place reply.after, reply.log⟩

end HeaderSource

end TelemetryAuth
