import TelemetryAuth.CloudExtension
import TelemetryAuth.Proofs.Credential.History
import TelemetryAuth.Proofs.Hook.Agreement

/-!
# All ways to a credential

A program comes by the token of a credential in five ways (`Use`): it asks for the token, for the
headers, for those of a header source, and it lets one of the two hooks ask a source.  Sources come
from different places too (`Origin`).  Between such uses it may look at the credential, attach it to
exporters and build pipelines (`Access`).

Every use is one call for the token, and nothing else touches the credential (`perform_use`,
`perform_of_no_reading`).  So a run of steps is seen through the clock readings of its uses
(`Access.after_eq`).  The main result is `access_follows_calls`.
-/

namespace TelemetryAuth

/-! ### Header sources of a credential -/

/-- The source that is asked when an exporter exports; without any it exports no headers. -/
def Exporter.headerSource (exporter : Exporter) : HeaderSource :=
  match exporter.source? with
  | some attached => attached.source
  | none => .fixed .empty

/-- How a header source of a credential comes about. -/
inductive Origin
  /-- It is made for the credential. -/
  | created
  /-- It is attached to an exporter that is authenticated. -/
  | attached (exporter : TransportExporter) (identity : Nat)
  /-- It is attached by the extension of a pipeline. -/
  | registered (env : Environment) (billedProject : String) (exporter : TransportExporter)
      (identity : Nat) (properties : Properties)

/-- The source of the credential at a place of a keyring. -/
def Origin.source (place : Nat) : Origin → HeaderSource
  | .created => .credentials place
  | .attached exporter identity =>
    ((Exporter.transport exporter).authenticate ⟨identity, .credentials place⟩).headerSource
  | .registered env billedProject exporter identity properties =>
    let extension := CloudExtension.extension env ⟨identity, .credentials place⟩ billedProject
    (extension.exporterCustomizers.foldl
      (fun (exporter : Exporter) (customizer : ExporterCustomizer) =>
        (customizer exporter properties).1) (.transport exporter)).headerSource

/-- Wherever a source comes from, it is backed by the credential itself. -/
theorem Origin.source_eq (place : Nat) (origin : Origin) :
    origin.source place = .credentials place := by
  cases origin with
  | created => rfl
  | attached exporter identity => rfl
  | registered env billedProject exporter identity properties => rfl

/-! ### Steps -/

/-- A call on the provider at a place of a keyring. -/
def Keyring.call {α : Type} (keyring : Keyring) (place : Nat)
    (step : Provider → Reply Provider α) : Reply Keyring α :=
  match keyring[place]? with
  | none => ⟨.error (.failed (.noIdentity Credential.noProject)), keyring, []⟩
  | some provider =>
    let reply := step provider
    ⟨reply.result, keyring.set place reply.after, reply.log⟩

/-- A way to use the token of a credential. -/
inductive Use
  | token
  | headers
  | ask (origin : Origin)
  | intercept (origin : Origin) (existing : HeaderMap) (order : HeaderOrder)
  | send (origin : Origin) (client : Http.Client) (request : Http.Request) (order : HeaderOrder)

/-- A step that a program takes with a credential. -/
inductive Access
  /-- The token is used at a reading of the clock. -/
  | use (way : Use) (now : Instant)
  /-- The project is looked up. -/
  | billedProject
  /-- The diagnostic text is looked up. -/
  | debug
  /-- A header source is made. -/
  | create
  /-- An exporter is authenticated. -/
  | customize (exporter : Exporter) (identity : Nat)
  /-- The extension is registered. -/
  | register (env : Environment) (identity : Nat)
  /-- A pipeline is built. -/
  | build (process : Environment) (plan : Pipeline.Plan)

/-- What a step answers. -/
inductive Access.Answer
  | grant (grant : Grant)
  | headers (headers : CallHeaders)
  | intercepted (ending : Grpc.Intercepted)
  | exchanged (exchange : Http.Exchange)
  | text (text : String)
  | source (source : HeaderSource)
  | exporter (exporter : Exporter)
  | extension (extension : Extension)
  | built (run : Pipeline.Run Pipeline.Built)

/-- A use of the credential at a place of a keyring. -/
def Use.perform (place : Nat) (keyring : Keyring) (now : Instant) :
    Use → Reply Keyring Access.Answer
  | .token => (keyring.call place fun provider => provider.grant now).map .grant
  | .headers => (keyring.call place fun provider => provider.headers now).map .headers
  | .ask origin => ((origin.source place).headers keyring now).map .headers
  | .intercept origin existing order =>
    (Grpc.intercept (origin.source place) keyring now existing order).map .intercepted
  | .send origin client request order =>
    (Http.send client (origin.source place) keyring now request order).map .exchanged

/-- A step with the credential at a place of a keyring.  The authentication of an exporter and the
building of a pipeline are not given the keyring. -/
def Access.perform (place : Nat) (keyring : Keyring) : Access → Reply Keyring Answer
  | .use way now => way.perform place keyring now
  | .billedProject =>
    keyring.call place fun provider => ⟨.ok (.text provider.billedProject), provider, []⟩
  | .debug =>
    keyring.call place fun provider => ⟨.ok (.text provider.credential.debugText), provider, []⟩
  | .create => ⟨.ok (.source (.credentials place)), keyring, []⟩
  | .customize exporter identity =>
    ⟨.ok (.exporter (exporter.authenticate ⟨identity, .credentials place⟩)), keyring,
      [exporter.authenticationEntry]⟩
  | .register env identity =>
    keyring.call place fun provider =>
      let extension :=
        CloudExtension.extension env ⟨identity, .credentials place⟩ provider.billedProject
      ⟨.ok (.extension extension), provider, extension.announcement⟩
  | .build process plan =>
    let run := Pipeline.build process plan
    ⟨.ok (.built run), keyring, run.log⟩

/-- The keyring after some steps. -/
def Access.after (place : Nat) (keyring : Keyring) (accesses : List Access) : Keyring :=
  accesses.foldl (fun keyring access => (access.perform place keyring).after) keyring

/-- The reading of the clock of a step that uses the token. -/
def Access.reading? : Access → Option Instant
  | .use _ now => some now
  | .billedProject | .debug | .create | .customize _ _ | .register _ _ | .build _ _ => none

/-- What a use answers if the call for the token has a result. -/
def Use.answerTo (call : Except CallFailure Grant) : Use → Except CallFailure Access.Answer
  | .token => call.map .grant
  | .headers | .ask _ => call.map fun grant => .headers (.ofGrant grant)
  | .intercept _ existing order =>
    match call with
    | .ok grant => .ok (.intercepted (Grpc.attachMetadata existing (.ofGrant grant) order))
    | .error (.failed error) => .ok (.intercepted (.error (Grpc.statusOfError error)))
    | .error (.crash message) => .error (.crash message)
  | .send _ client request order =>
    match call with
    | .ok grant => .ok (.exchanged (Http.sendWith client request (.ofGrant grant) order))
    | .error (.failed error) => .ok (.exchanged ⟨.error error.message, []⟩)
    | .error (.crash message) => .error (.crash message)

/-- What a use answers to a token: the token, or its header set, or what a hook makes of the set.
A hook lays the set over the headers there are, or it refuses a set with a value that does not
fit. -/
inductive Use.Carries (grant : Grant) : Use → Access.Answer → Prop
  | token : Carries grant .token (.grant grant)
  | headers : Carries grant .headers (.headers (.ofGrant grant))
  | asked {origin : Origin} : Carries grant (.ask origin) (.headers (.ofGrant grant))
  | attached {origin : Origin} {existing metadata : HeaderMap} {order : HeaderOrder}
      (overlaid : existing.Overlaid (.ofGrant grant) metadata) :
      Carries grant (.intercept origin existing order) (.intercepted (.ok metadata))
  | refused {origin : Origin} {existing : HeaderMap} {order : HeaderOrder} {message : String}
      (misfit : ¬ grant.FitsHeaders) :
      Carries grant (.intercept origin existing order)
        (.intercepted (.error ⟨.internal, message⟩))
  | sent {origin : Origin} {client : Http.Client} {request : Http.Request} {order : HeaderOrder}
      {headers : HeaderMap} (overlaid : request.headers.Overlaid (.ofGrant grant) headers) :
      Carries grant (.send origin client request order)
        (.exchanged ⟨client { request with headers }, [{ request with headers }]⟩)
  | unsent {origin : Origin} {client : Http.Client} {request : Http.Request} {order : HeaderOrder}
      {message : String} (misfit : ¬ grant.FitsHeaders) :
      Carries grant (.send origin client request order) (.exchanged ⟨.error message, []⟩)

theorem exists_use_of_reading {access : Access} {now : Instant}
    (h : access.reading? = some now) : ∃ way, access = .use way now := by
  cases access with
  | use way reading =>
    obtain rfl := Option.some.inj h
    exact ⟨way, rfl⟩
  | billedProject => cases h
  | debug => cases h
  | create => cases h
  | customize exporter identity => cases h
  | register env identity => cases h
  | build process plan => cases h

/-! ### One step -/

variable {place : Nat} {keyring : Keyring} {provider : Provider}

theorem Keyring.call_of_get? {α : Type} (h : keyring[place]? = some provider)
    (step : Provider → Reply Provider α) :
    keyring.call place step =
      ⟨(step provider).result, keyring.set place (step provider).after, (step provider).log⟩ := by
  simp [Keyring.call, h]

/-- A source of the credential asks for the token once. -/
theorem headers_of_get? (h : keyring[place]? = some provider) (origin : Origin) (now : Instant) :
    (origin.source place).headers keyring now =
      ⟨(provider.grant now).result.map CallHeaders.ofGrant,
        keyring.set place (provider.grant now).after, (provider.grant now).log⟩ := by
  rw [Origin.source_eq]
  simp [HeaderSource.headers, h, Provider.headers, Reply.map]

/-- **A use is one call for the token.** -/
theorem perform_use (h : keyring[place]? = some provider) (way : Use) (now : Instant) :
    (way.perform place keyring now).after = keyring.set place (provider.grant now).after ∧
      (way.perform place keyring now).result = way.answerTo (provider.grant now).result := by
  -- The first two ways call the provider itself; the others ask a source, which calls it.
  cases way with
  | token =>
    rw [Use.perform, Keyring.call_of_get? h]
    exact ⟨rfl, rfl⟩
  | headers =>
    rw [Use.perform, Keyring.call_of_get? h, Use.answerTo]
    refine ⟨rfl, ?_⟩
    cases hresult : (provider.grant now).result <;>
      simp [Provider.headers, Reply.map, hresult, Except.map]
  | ask origin =>
    rw [Use.perform, headers_of_get? h, Use.answerTo]
    refine ⟨rfl, ?_⟩
    cases hresult : (provider.grant now).result <;> simp [Reply.map, Except.map]
  | intercept origin existing order =>
    rw [Use.perform, Grpc.intercept, headers_of_get? h]
    cases (provider.grant now).result with
    | ok grant => exact ⟨rfl, rfl⟩
    | error failure => cases failure <;> exact ⟨rfl, rfl⟩
  | send origin client request order =>
    rw [Use.perform, Http.send, headers_of_get? h]
    cases (provider.grant now).result with
    | ok grant => exact ⟨rfl, rfl⟩
    | error failure => cases failure <;> exact ⟨rfl, rfl⟩

/-- **No other step touches the keyring.** -/
theorem perform_of_no_reading (h : keyring[place]? = some provider) {access : Access}
    (hreading : access.reading? = none) : (access.perform place keyring).after = keyring := by
  have hset : keyring.set place provider = keyring := by
    obtain ⟨hplace, rfl⟩ := List.getElem?_eq_some_iff.1 h
    exact List.set_getElem_self hplace
  cases access with
  | use way now => cases hreading
  | billedProject =>
    rw [Access.perform, Keyring.call_of_get? h]
    exact hset
  | debug =>
    rw [Access.perform, Keyring.call_of_get? h]
    exact hset
  | create => rfl
  | customize exporter identity => rfl
  | register env identity =>
    rw [Access.perform, Keyring.call_of_get? h]
    exact hset
  | build process plan => rfl

/-- A use answers to a token with what it carries. -/
theorem Use.exists_carries (way : Use) (grant : Grant) :
    ∃ answer, way.answerTo (.ok grant) = .ok answer ∧ way.Carries grant answer := by
  cases way with
  | token => exact ⟨_, rfl, .token⟩
  | headers => exact ⟨_, rfl, .headers⟩
  | ask origin => exact ⟨_, rfl, .asked⟩
  | intercept origin existing order =>
    by_cases hfits : grant.FitsHeaders
    · obtain ⟨metadata, hattached, hoverlaid⟩ :=
        Grpc.attachMetadata_of_fitsHeaders existing order hfits
      exact ⟨_, by rw [answerTo, hattached], .attached hoverlaid⟩
    · obtain ⟨header, -, -, hattached⟩ :=
        Grpc.attachMetadata_of_not_fitsHeaders existing order hfits
      exact ⟨_, by rw [answerTo, hattached], .refused hfits⟩
  | send origin client request order =>
    by_cases hfits : grant.FitsHeaders
    · obtain ⟨headers, hoverlaid, hsent⟩ :=
        Http.sendWith_of_fitsHeaders client request order hfits
      exact ⟨_, by rw [answerTo, hsent], .sent hoverlaid⟩
    · have hunsent := Http.sendWith_of_not_fitsHeaders client request order hfits
      exact ⟨_, by rw [answerTo, hunsent], .unsent hfits⟩

/-! ### Runs of steps -/

/-- The outcomes of the fetches that a provider has made since an earlier state. -/
def Provider.outcomesSince (provider earlier : Provider) : List FetchOutcome :=
  (List.range' earlier.fetches (provider.fetches - earlier.fetches)).map earlier.backend

theorem Provider.outcomesSince_afterRun (provider : Provider) (clock : List Instant) :
    (provider.afterRun clock).outcomesSince provider =
      (provider.history clock).map (·.outcome) := by
  obtain ⟨hcount, houtcomes⟩ := outcomes_history provider clock
  rw [houtcomes, outcomesSince, hcount, Nat.add_sub_cancel_left]

theorem Provider.replies_concat (provider : Provider) (clock : List Instant) (now : Instant) :
    provider.replies (clock ++ [now]) =
      provider.replies clock ++ [(provider.afterRun clock).grant now] := by
  induction clock generalizing provider with
  | nil => rfl
  | cons first clock ih =>
    rw [List.cons_append, replies, ih, afterRun_cons]
    rfl

theorem Provider.billedProject_grant (provider : Provider) (now : Instant) :
    (provider.grant now).after.billedProject = provider.billedProject := by
  cases provider.callCases now with
  | overflow due fetch result after => rw [after]
  | fresh due fetch result after => rw [after]
  | failed reason due next fetch result after => rw [after]; rfl
  | crashed message due next fetch result after => rw [after]; rfl
  | refreshed token due next fetch result after => rw [after]; rfl

theorem Provider.billedProject_afterRun (provider : Provider) (clock : List Instant) :
    (provider.afterRun clock).billedProject = provider.billedProject := by
  induction clock generalizing provider with
  | nil => rfl
  | cons now clock ih => rw [afterRun_cons, ih, billedProject_grant]

/-- After some steps the credential is what the calls of the uses make of it. -/
theorem Access.after_eq (h : keyring[place]? = some provider) (accesses : List Access) :
    Access.after place keyring accesses =
      keyring.set place (provider.afterRun (accesses.filterMap Access.reading?)) := by
  unfold Access.after
  induction accesses generalizing keyring provider with
  | nil =>
    obtain ⟨hplace, rfl⟩ := List.getElem?_eq_some_iff.1 h
    exact (List.set_getElem_self hplace).symm
  | cons access later ih =>
    rw [List.foldl_cons]
    cases hreading : access.reading? with
    | none =>
      rw [perform_of_no_reading h hreading, List.filterMap_cons_none hreading]
      exact ih h
    | some now =>
      obtain ⟨way, rfl⟩ := exists_use_of_reading hreading
      have hplace : place < keyring.length := (List.getElem?_eq_some_iff.1 h).1
      rw [List.filterMap_cons_some hreading, Provider.afterRun_cons, Access.perform,
        (perform_use h way now).1, ih (List.getElem?_set_self hplace), List.set_set]

/-- **All ways to a credential are views of it.**  Take any steps with the credential of a provider,
and replace each use by one call for the token at the same reading of the clock and drop all other
steps.

- After the steps the credential and the number of its fetches are those after these calls, the
  outcomes fetched are theirs, and no other provider has changed.
- The next use is one call more: it leaves the credential as the call does, and its answer is made
  from the result of the call.  If that is a token, the header set names the project and the token
  and nothing else, and the use answers with what it carries: a hook lays this set over the headers
  there are.
- Any other step leaves everything as it is: looking up the project or the diagnostic text, making a
  header source, authenticating an exporter, registering the extension and building a pipeline. -/
theorem access_follows_calls (h : keyring[place]? = some provider) (accesses : List Access) :
    let readings := accesses.filterMap Access.reading?
    let here := Access.after place keyring accesses
    here = keyring.set place (provider.afterRun readings) ∧
    here[place]? = some (provider.afterRun readings) ∧
    (provider.afterRun readings).outcomesSince provider =
      (provider.history readings).map (·.outcome) ∧
    (∀ way now, ∃ call,
      provider.replies (readings ++ [now]) = provider.replies readings ++ [call] ∧
      ((Access.use way now).perform place here).after = keyring.set place call.after ∧
      ((Access.use way now).perform place here).result = way.answerTo call.result ∧
      ∀ grant, call.result = .ok grant →
        (CallHeaders.ofGrant grant).toList =
          [("Authorization", "Bearer " ++ grant.token),
            ("X-Goog-User-Project", provider.billedProject)] ∧
        ∃ answer, ((Access.use way now).perform place here).result = .ok answer ∧
          way.Carries grant answer) ∧
    (Access.billedProject.perform place here).result = .ok (.text provider.billedProject) ∧
    ∀ access : Access, access.reading? = none → (access.perform place here).after = here := by
  intro readings here
  have hhere : here = keyring.set place (provider.afterRun readings) := Access.after_eq h accesses
  have hget : here[place]? = some (provider.afterRun readings) := by
    rw [hhere]
    exact List.getElem?_set_self (List.getElem?_eq_some_iff.1 h).1
  refine ⟨hhere, hget, provider.outcomesSince_afterRun readings, fun way now => ?_, ?_,
    fun access hreading => perform_of_no_reading hget hreading⟩
  · obtain ⟨hafter, hresult⟩ := perform_use hget way now
    refine ⟨_, provider.replies_concat readings now, ?_, hresult, fun grant hgrant => ?_⟩
    · rw [Access.perform, hafter, hhere, List.set_set]
    · obtain ⟨answer, hanswer, hcarries⟩ := way.exists_carries grant
      refine ⟨?_, answer, ?_, hcarries⟩
      · obtain ⟨token, -, rfl, -⟩ := Provider.token_of_grant hgrant
        rw [CallHeaders.toList_ofGrant]
        show [_, (_, (provider.afterRun readings).billedProject)] = _
        rw [Provider.billedProject_afterRun]
        rfl
      · rw [Access.perform, hresult, hgrant]
        exact hanswer
  · rw [Access.perform, Keyring.call_of_get? hget, Provider.billedProject_afterRun]

/-! ### A program with two exporters

Its extension is registered and two exporters are authenticated before the first use.  The back end
caches its token and fails once. -/

/-- An exporter that was given a source of its own before. -/
def staleExporter : TransportExporter :=
  { TransportExporter.ofDefaults .grpc with source := some ⟨1, .failing (.refreshFailed "stale")⟩ }

/-- The steps of the program. -/
def twoExporters : List Access := [
  .register (.ofList []) 2,
  .use (.ask (.attached staleExporter 2)) insideMargin,
  .debug,
  .use (.intercept (.attached (.ofDefaults .http) 3) .empty .byName) insideMargin,
  .create,
  .use .token insideMargin]

theorem access_follows_calls_twoExporters :
    [cachingProvider][0]? = some cachingProvider ∧
    let here := Access.after 0 [cachingProvider] twoExporters
    ∃ provider, here[0]? = some provider ∧ provider.fetches = 3 ∧
      provider.credential.held = some cachedToken ∧
      provider.outcomesSince cachingProvider =
        [.token cachedToken, .failure "unreachable", .token cachedToken] ∧
      ((Access.use (.ask .created) insideMargin).perform 0 here).result =
        .ok (.headers (.ofGrant ⟨"project", "cached"⟩)) ∧
      (CallHeaders.ofGrant ⟨"project", "cached"⟩).toList =
        [("Authorization", "Bearer cached"), ("X-Goog-User-Project", "project")] ∧
      (∃ metadata : HeaderMap,
        ((Access.use (.intercept .created repeatedHeaders .byName) insideMargin).perform 0
          here).result = .ok (.intercepted (.ok metadata)) ∧
        metadata.values "authorization" = ["Bearer cached"] ∧
        metadata.values "x-tenant" = ["a", "b"]) ∧
      ((Access.use (.ask .created) insideMargin).perform 0 here).after = here ∧
      (Access.debug.perform 0 here).after = here := by
  have hprovider : [cachingProvider][0]? = some cachingProvider := rfl
  refine ⟨hprovider, ?_⟩
  intro here
  obtain ⟨hhere, hget, houtcomes, huse, -, hother⟩ := access_follows_calls hprovider twoExporters
  obtain ⟨call, hreplies, hafter, hresult, hset⟩ := huse (.ask .created) insideMargin
  obtain rfl := List.singleton_inj.1 <| List.append_cancel_left <|
    hreplies.symm.trans (Provider.replies_concat _ _ _)
  obtain ⟨hlist, -⟩ := hset ⟨"project", "cached"⟩ rfl
  refine ⟨_, hget, by decide +kernel, by decide +kernel, ?_, hresult, hlist, ?_,
    hafter.trans hhere.symm, hother .debug rfl⟩
  · rw [houtcomes]
    decide +kernel
  · obtain ⟨call, hreplies, -, -, hset⟩ :=
      huse (.intercept .created repeatedHeaders .byName) insideMargin
    obtain rfl := List.singleton_inj.1 <| List.append_cancel_left <|
      hreplies.symm.trans (Provider.replies_concat _ _ _)
    obtain ⟨-, answer, hanswer, hcarries⟩ := hset ⟨"project", "cached"⟩ rfl
    cases hcarries with
    | attached overlaid =>
      have htenant : ∀ header ∈ (CallHeaders.ofGrant ⟨"project", "cached"⟩).toList,
          Header.lowerName header.1 ≠ Header.lowerName "x-tenant" := by decide +kernel
      exact ⟨_, hanswer, (CallHeaders.values_of_overlaid overlaid).1,
        (overlaid.others _ htenant).trans (by decide +kernel)⟩
    | refused misfit => exact absurd (by decide +kernel) misfit

end TelemetryAuth
