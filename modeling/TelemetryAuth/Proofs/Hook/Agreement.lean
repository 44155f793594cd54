import TelemetryAuth.Hook.Http
import TelemetryAuth.Proofs.Header.Granted

/-!
# The two hooks agree

The interceptor of remote procedure calls and the client over HTTP attach the headers of one source,
each with a loop of its own.  What either does is told from the result of the source: an answer is
attached (`Grpc.attachMetadata`, `Http.sendWith`), a failure drops the call, a crash is passed on.
So the two agree as far as their rules for names do.  Metadata refuses the names of binary values in
addition (`Header.fits_isMetadataName_iff`), and this is the only difference.

The main result is `hooks_agree`, for every source, every request and every order in which either
hook goes through the set.
-/

namespace TelemetryAuth

/-- A header is metadata if it is well formed and not named like a binary value. -/
theorem Header.fits_isMetadataName_iff {header : String × String} :
    Header.Fits Header.isMetadataName header ↔
      Header.Fits Header.isName header ∧ Header.isBinaryName header.1 = false := by
  simp only [Header.Fits, Header.isMetadataName, Bool.and_eq_true, Bool.not_eq_true']
  exact and_right_comm

/-- What is not well formed as a header is no metadata either. -/
theorem Header.exists_not_metadata_of_not_fits {headers : List (String × String)}
    (h : ∃ header ∈ headers, ¬ Fits isName header) :
    ∃ header ∈ headers, ¬ Fits isMetadataName header := by
  obtain ⟨header, hmem, hnot⟩ := h
  exact ⟨header, hmem, fun hfits => hnot (fits_isMetadataName_iff.1 hfits).1⟩

/-- Neither is what is named like a binary value. -/
theorem Header.exists_not_metadata_of_binary {headers : List (String × String)}
    (h : ∃ header ∈ headers, isBinaryName header.1 = true) :
    ∃ header ∈ headers, ¬ Fits isMetadataName header := by
  obtain ⟨header, hmem, hname⟩ := h
  refine ⟨header, hmem, fun hfits => ?_⟩
  rw [(fits_isMetadataName_iff.1 hfits).2] at hname
  cases hname

/-! ### The interceptor -/

namespace Grpc

variable {source : HeaderSource} {keyring : Keyring} {now : Instant} {existing : HeaderMap}
  {order : HeaderOrder} {set : CallHeaders}

theorem after_intercept :
    (intercept source keyring now existing order).after = (source.headers keyring now).after := by
  unfold intercept
  dsimp only
  split <;> rfl

theorem intercept_of_ok (h : (source.headers keyring now).result = .ok set) :
    (intercept source keyring now existing order).result =
        .ok (attachMetadata existing set order) ∧
      (intercept source keyring now existing order).log = (source.headers keyring now).log := by
  simp [intercept, h]

theorem intercept_of_failed {error : CredentialError}
    (h : (source.headers keyring now).result = .error (.failed error)) :
    (intercept source keyring now existing order).result = .ok (.error (statusOfError error)) ∧
      (intercept source keyring now existing order).log =
        (source.headers keyring now).log ++ [droppedEntry error] := by
  simp [intercept, h]

theorem intercept_of_crash {message : String}
    (h : (source.headers keyring now).result = .error (.crash message)) :
    (intercept source keyring now existing order).result = .error (.crash message) ∧
      (intercept source keyring now existing order).log = (source.headers keyring now).log := by
  simp [intercept, h]

theorem attachMetadata_of_fits (existing : HeaderMap) (order : HeaderOrder)
    (hdiffer : CallHeaders.NamesDiffer set)
    (hfits : ∀ header ∈ set.toList, Header.Fits Header.isMetadataName header) :
    ∃ metadata, attachMetadata existing set order = .ok metadata ∧
      existing.Overlaid set metadata := by
  obtain ⟨metadata, hattach, hoverlaid⟩ := HeaderMap.attach_of_fits existing order hdiffer hfits
  exact ⟨metadata, by rw [attachMetadata, hattach], hoverlaid⟩

theorem attachMetadata_of_not_fits (existing : HeaderMap) (order : HeaderOrder)
    (h : ∃ header ∈ set.toList, ¬ Header.Fits Header.isMetadataName header) :
    ∃ header ∈ set.toList, ∃ fault : HeaderFault, fault.Blames Header.isMetadataName header ∧
      attachMetadata existing set order = .error ⟨.internal, faultMessage fault⟩ := by
  obtain ⟨header, hmem, fault, hblames, hattach⟩ :=
    HeaderMap.attach_of_not_fits existing order h
  exact ⟨header, hmem, fault, hblames, by rw [attachMetadata, hattach]⟩

variable {grant : Grant}

/-- The set of a token is attached if its values fit. -/
theorem attachMetadata_of_fitsHeaders (existing : HeaderMap) (order : HeaderOrder)
    (h : grant.FitsHeaders) :
    ∃ metadata, attachMetadata existing (.ofGrant grant) order = .ok metadata ∧
      existing.Overlaid (.ofGrant grant) metadata :=
  attachMetadata_of_fits existing order (CallHeaders.namesDiffer_ofGrant grant)
    ((CallHeaders.fits_ofGrant_iff admitsNames_isMetadataName).2 h)

/-- Else it is refused for a value that does not fit. -/
theorem attachMetadata_of_not_fitsHeaders (existing : HeaderMap) (order : HeaderOrder)
    (h : ¬ grant.FitsHeaders) :
    ∃ header ∈ (CallHeaders.ofGrant grant).toList, Header.isValue header.2 = false ∧
      attachMetadata existing (.ofGrant grant) order =
        .error ⟨.internal, faultMessage (.value header.1)⟩ := by
  obtain ⟨header, hmem, fault, hblames, hattach⟩ := attachMetadata_of_not_fits existing order
    (CallHeaders.exists_not_fits_ofGrant admitsNames_isMetadataName h)
  obtain ⟨rfl, hvalue⟩ := CallHeaders.unfit_of_blames admitsNames_isMetadataName hmem hblames
  exact ⟨header, hmem, hvalue, hattach⟩

end Grpc

/-! ### The client -/

namespace Http

variable {client : Client} {source : HeaderSource} {keyring : Keyring} {now : Instant}
  {request : Request} {order : HeaderOrder} {set : CallHeaders}

theorem after_send :
    (send client source keyring now request order).after = (source.headers keyring now).after := by
  unfold send
  dsimp only
  split <;> rfl

theorem send_of_ok (h : (source.headers keyring now).result = .ok set) :
    (send client source keyring now request order).result =
        .ok (sendWith client request set order) ∧
      (send client source keyring now request order).log = (source.headers keyring now).log := by
  simp [send, h]

theorem send_of_failed {error : CredentialError}
    (h : (source.headers keyring now).result = .error (.failed error)) :
    (send client source keyring now request order).result = .ok ⟨.error error.message, []⟩ ∧
      (send client source keyring now request order).log =
        (source.headers keyring now).log ++ [Grpc.droppedEntry error] := by
  simp [send, h]

theorem send_of_crash {message : String}
    (h : (source.headers keyring now).result = .error (.crash message)) :
    (send client source keyring now request order).result = .error (.crash message) ∧
      (send client source keyring now request order).log = (source.headers keyring now).log := by
  simp [send, h]

theorem sendWith_of_fits (client : Client) (request : Request) (order : HeaderOrder)
    (hdiffer : CallHeaders.NamesDiffer set)
    (hfits : ∀ header ∈ set.toList, Header.Fits Header.isName header) :
    ∃ headers, request.headers.Overlaid set headers ∧
      sendWith client request set order =
        ⟨client { request with headers }, [{ request with headers }]⟩ := by
  obtain ⟨headers, hattach, hoverlaid⟩ :=
    HeaderMap.attach_of_fits request.headers order hdiffer hfits
  exact ⟨headers, hoverlaid, by rw [sendWith, hattach]⟩

theorem sendWith_of_not_fits (client : Client) (request : Request) (order : HeaderOrder)
    (h : ∃ header ∈ set.toList, ¬ Header.Fits Header.isName header) :
    ∃ header ∈ set.toList, ∃ fault : HeaderFault, fault.Blames Header.isName header ∧
      sendWith client request set order = ⟨.error (faultMessage fault), []⟩ := by
  obtain ⟨header, hmem, fault, hblames, hattach⟩ :=
    HeaderMap.attach_of_not_fits request.headers order h
  exact ⟨header, hmem, fault, hblames, by rw [sendWith, hattach]⟩

variable {grant : Grant}

/-- A request is sent with the set of a token if its values fit. -/
theorem sendWith_of_fitsHeaders (client : Client) (request : Request) (order : HeaderOrder)
    (h : grant.FitsHeaders) :
    ∃ headers, request.headers.Overlaid (.ofGrant grant) headers ∧
      sendWith client request (.ofGrant grant) order =
        ⟨client { request with headers }, [{ request with headers }]⟩ :=
  sendWith_of_fits client request order (CallHeaders.namesDiffer_ofGrant grant)
    ((CallHeaders.fits_ofGrant_iff admitsNames_isName).2 h)

/-- Else it is not sent, in words that do not name the header. -/
theorem sendWith_of_not_fitsHeaders (client : Client) (request : Request) (order : HeaderOrder)
    (h : ¬ grant.FitsHeaders) :
    sendWith client request (.ofGrant grant) order =
      ⟨.error "failed to parse header value", []⟩ := by
  obtain ⟨header, hmem, fault, hblames, hsend⟩ := sendWith_of_not_fits client request order
    (CallHeaders.exists_not_fits_ofGrant admitsNames_isName h)
  obtain ⟨rfl, -⟩ := CallHeaders.unfit_of_blames admitsNames_isName hmem hblames
  exact hsend

end Http

/-! ### Both -/

theorem log_intercept_eq_log_send (client : Http.Client) (source : HeaderSource)
    (keyring : Keyring) (now : Instant) (existing : HeaderMap) (request : Http.Request)
    (callOrder requestOrder : HeaderOrder) :
    (Grpc.intercept source keyring now existing callOrder).log =
      (Http.send client source keyring now request requestOrder).log := by
  cases hasked : (source.headers keyring now).result with
  | ok set => rw [(Grpc.intercept_of_ok hasked).2, (Http.send_of_ok hasked).2]
  | error failure =>
    cases failure with
    | failed error => rw [(Grpc.intercept_of_failed hasked).2, (Http.send_of_failed hasked).2]
    | crash message => rw [(Grpc.intercept_of_crash hasked).2, (Http.send_of_crash hasked).2]

/-- **The two hooks agree.**  Let a call with some metadata and a request with the same headers be
authenticated by one source, each going through the set in an order of its own.  Both leave the
source in the same state and log the same, and then:

* If the source answers with a set whose names differ, and all of its headers are well formed and
  none is named like a binary value, the call goes on with metadata, the wrapped client is called
  once with the request as it was apart from its headers, and its answer is the answer.  Metadata
  and headers are the same: each name of the set has its one value, every other name has what it
  had.
* If a header of the set is not well formed, the call ends as an internal error and the request as a
  failure, either with the wording for such a header, and the wrapped client is not called.
* If all are well formed and one is named like a binary value, the call ends as an internal error,
  and the request is sent.
* If the source fails, the call ends with a status that asks for a retry exactly if the failure may
  be retried, the request ends with the failure, and the wrapped client is not called.
* If the source crashes, so do both. -/
theorem hooks_agree (client : Http.Client) (source : HeaderSource) (keyring : Keyring)
    (now : Instant) (request : Http.Request) (callOrder requestOrder : HeaderOrder) :
    let asked := source.headers keyring now
    let call := Grpc.intercept source keyring now request.headers callOrder
    let exchange := Http.send client source keyring now request requestOrder
    (call.after = asked.after ∧ exchange.after = asked.after ∧ call.log = exchange.log) ∧
    (∀ set, asked.result = .ok set →
      (CallHeaders.NamesDiffer set →
        (∀ header ∈ set.toList, Header.Fits Header.isName header) →
        (∀ header ∈ set.toList, Header.isBinaryName header.1 = false) →
        ∃ metadata headers : HeaderMap,
          call.result = .ok (.ok metadata) ∧
          exchange.result = .ok ⟨client { request with headers }, [{ request with headers }]⟩ ∧
          request.headers.Overlaid set metadata ∧ request.headers.Overlaid set headers ∧
          ∀ name, metadata.values name = headers.values name) ∧
      ((∃ header ∈ set.toList, ¬ Header.Fits Header.isName header) →
        (∃ header ∈ set.toList, ∃ fault : HeaderFault,
          fault.Blames Header.isMetadataName header ∧
          call.result = .ok (.error ⟨.internal, Grpc.faultMessage fault⟩)) ∧
        ∃ header ∈ set.toList, ∃ fault : HeaderFault,
          fault.Blames Header.isName header ∧
          exchange.result = .ok ⟨.error (Http.faultMessage fault), []⟩) ∧
      (CallHeaders.NamesDiffer set →
        (∀ header ∈ set.toList, Header.Fits Header.isName header) →
        (∃ header ∈ set.toList, Header.isBinaryName header.1 = true) →
        (∃ header ∈ set.toList, ∃ fault : HeaderFault,
          fault.Blames Header.isMetadataName header ∧
          call.result = .ok (.error ⟨.internal, Grpc.faultMessage fault⟩)) ∧
        ∃ headers : HeaderMap, request.headers.Overlaid set headers ∧
          exchange.result =
            .ok ⟨client { request with headers }, [{ request with headers }]⟩)) ∧
    (∀ error, asked.result = .error (.failed error) →
      call.result = .ok (.error
        ⟨if error.mayRetry then .unavailable else .unauthenticated, error.message⟩) ∧
      exchange.result = .ok ⟨.error error.message, []⟩) ∧
    (∀ message, asked.result = .error (.crash message) →
      call.result = .error (.crash message) ∧ exchange.result = .error (.crash message)) := by
  intro asked call exchange
  refine ⟨⟨Grpc.after_intercept, Http.after_send, log_intercept_eq_log_send ..⟩,
    fun set hasked => ?_, fun error hasked => ?_, fun message hasked => ?_⟩
  · -- The source answers: both hooks attach the same set, and each ends as its own rule for names
    -- says.
    have hcall : call.result = .ok (Grpc.attachMetadata request.headers set callOrder) :=
      (Grpc.intercept_of_ok hasked).1
    have hexchange : exchange.result = .ok (Http.sendWith client request set requestOrder) :=
      (Http.send_of_ok hasked).1
    refine ⟨fun hdiffer hfits htext => ?_, fun hmisfit => ?_, fun hdiffer hfits hbinary => ?_⟩
    · -- Without names of binary values the stricter rule is the other one, so both sets fit.
      have hmetadata : ∀ header ∈ set.toList, Header.Fits Header.isMetadataName header := by
        intro header hmem
        exact Header.fits_isMetadataName_iff.2 ⟨hfits header hmem, htext header hmem⟩
      obtain ⟨metadata, hattached, hcallOverlaid⟩ :=
        Grpc.attachMetadata_of_fits request.headers callOrder hdiffer hmetadata
      obtain ⟨headers, hoverlaid, hsent⟩ :=
        Http.sendWith_of_fits client request requestOrder hdiffer hfits
      -- The orders may differ, but both views are determined by the set and the headers before.
      exact ⟨metadata, headers, by rw [hcall, hattached], by rw [hexchange, hsent],
        hcallOverlaid, hoverlaid, hcallOverlaid.values_eq hoverlaid⟩
    · -- Each loop blames a header of the set, perhaps another one, as the orders may differ.
      obtain ⟨header, hmem, fault, hblames, hattached⟩ :=
        Grpc.attachMetadata_of_not_fits request.headers callOrder
          (Header.exists_not_metadata_of_not_fits hmisfit)
      obtain ⟨header', hmem', fault', hblames', hsent⟩ :=
        Http.sendWith_of_not_fits client request requestOrder hmisfit
      exact ⟨⟨header, hmem, fault, hblames, by rw [hcall, hattached]⟩,
        header', hmem', fault', hblames', by rw [hexchange, hsent]⟩
    · -- The name of a binary value is a misfit for metadata only, so the request is sent.
      obtain ⟨header, hmem, fault, hblames, hattached⟩ :=
        Grpc.attachMetadata_of_not_fits request.headers callOrder
          (Header.exists_not_metadata_of_binary hbinary)
      obtain ⟨headers, hoverlaid, hsent⟩ :=
        Http.sendWith_of_fits client request requestOrder hdiffer hfits
      exact ⟨⟨header, hmem, fault, hblames, by rw [hcall, hattached]⟩,
        headers, hoverlaid, by rw [hexchange, hsent]⟩
  -- The source gives no set, so there is nothing to attach.
  · exact ⟨(Grpc.intercept_of_failed hasked).1, (Http.send_of_failed hasked).1⟩
  · exact ⟨(Grpc.intercept_of_crash hasked).1, (Http.send_of_crash hasked).1⟩

/-! ### A request with repeated headers

It names its authorization twice and a tenant twice, in different spellings. -/

/-- The headers of an earlier attempt and of the tenant. -/
def repeatedHeaders : HeaderMap :=
  .ofList [("authorization", "Bearer old"), ("X-Tenant", "a"), ("AUTHORIZATION", "Bearer older"),
    ("x-tenant", "b")]

/-- The request that carries them. -/
def repeatedRequest : Http.Request :=
  ⟨"POST", ⟨some "https", some "collector", some "/v1/traces", none⟩, repeatedHeaders, "spans"⟩

/-- The order of the names from behind. -/
def HeaderOrder.reversed : HeaderOrder :=
  ⟨fun headers => headers.toList.reverse, fun headers => headers.toList.reverse_perm⟩

/-- A client that accepts everything. -/
def acceptingClient : Http.Client := fun request => .ok ⟨200, request.body⟩

/-- The headers that authenticate a call. -/
def authenticatingSet : CallHeaders := CallHeaders.ofGrant ⟨"project", "new"⟩

/-- A set with a line break in a value. -/
def brokenSet : CallHeaders := Dictionary.ofList [("authorization", "Bearer\n"), ("x-tenant", "c")]

/-- A set with a name of a binary value. -/
def binarySet : CallHeaders := Dictionary.ofList [("Trace-BIN", "c")]

/-- A provider whose back end crashes. -/
def crashingKeyring : Keyring :=
  [⟨Backend.ofList [.crash "no thread"], ⟨"project", none, false⟩, 0⟩]

theorem hooks_agree_repeated :
    let call := fun source => Grpc.intercept source crashingKeyring .earliest repeatedHeaders
    let exchange := fun source =>
      Http.send acceptingClient source crashingKeyring .earliest repeatedRequest .reversed
    (∃ metadata headers : HeaderMap,
      (call (.fixed authenticatingSet)).result = .ok (.ok metadata) ∧
      (exchange (.fixed authenticatingSet)).result =
        .ok ⟨.ok ⟨200, "spans"⟩, [{ repeatedRequest with headers }]⟩ ∧
      metadata.values "authorization" = ["Bearer new"] ∧
      headers.values "authorization" = ["Bearer new"] ∧ headers.values "x-tenant" = ["a", "b"]) ∧
    (∃ message reason, (call (.fixed brokenSet)).result = .ok (.error ⟨.internal, message⟩) ∧
      (exchange (.fixed brokenSet)).result = .ok ⟨.error reason, []⟩) ∧
    (∃ message, ∃ headers : HeaderMap,
      (call (.fixed binarySet)).result = .ok (.error ⟨.internal, message⟩) ∧
      (exchange (.fixed binarySet)).result =
        .ok ⟨.ok ⟨200, "spans"⟩, [{ repeatedRequest with headers }]⟩ ∧
      headers.values "trace-bin" = ["c"]) ∧
    (∃ message, (call (.failing (.refreshFailed "unreachable"))).result =
        .ok (.error ⟨.unavailable, message⟩) ∧
      (exchange (.failing (.refreshFailed "unreachable"))).result = .ok ⟨.error message, []⟩) ∧
    (call (.credentials 0)).result = .error (.crash "no thread") ∧
      (exchange (.credentials 0)).result = .error (.crash "no thread") := by
  intro call exchange
  have hagree := fun source => hooks_agree acceptingClient source crashingKeyring .earliest
    repeatedRequest .byName .reversed
  refine ⟨?_, ?_, ?_, ?_, ?_⟩
  · obtain ⟨-, hanswer, -, -⟩ := hagree (.fixed authenticatingSet)
    obtain ⟨metadata, headers, hcall, hexchange, -, hoverlaid, hsame⟩ :=
      (hanswer authenticatingSet rfl).1 (by decide +kernel) (by decide +kernel) (by decide +kernel)
    have hown : headers.values "authorization" = ["Bearer new"] :=
      hoverlaid.own ("Authorization", "Bearer new") (by decide +kernel) _ (by decide +kernel)
    have hother : headers.values "x-tenant" = ["a", "b"] :=
      (hoverlaid.others "x-tenant" (by decide +kernel)).trans (by decide +kernel)
    exact ⟨metadata, headers, hcall, hexchange, (hsame _).trans hown, hown, hother⟩
  · obtain ⟨-, hanswer, -, -⟩ := hagree (.fixed brokenSet)
    obtain ⟨⟨-, -, fault, -, hcall⟩, -, -, fault', -, hexchange⟩ :=
      (hanswer brokenSet rfl).2.1
        ⟨("authorization", "Bearer\n"), by decide +kernel, by decide +kernel⟩
    exact ⟨_, _, hcall, hexchange⟩
  · obtain ⟨-, hanswer, -, -⟩ := hagree (.fixed binarySet)
    obtain ⟨⟨-, -, fault, -, hcall⟩, headers, hoverlaid, hexchange⟩ :=
      (hanswer binarySet rfl).2.2 (by decide +kernel) (by decide +kernel)
        ⟨("Trace-BIN", "c"), by decide +kernel, by decide +kernel⟩
    exact ⟨_, headers, hcall, hexchange,
      hoverlaid.own ("Trace-BIN", "c") (by decide +kernel) _ (by decide +kernel)⟩
  · obtain ⟨-, -, hfailed, -⟩ := hagree (.failing (.refreshFailed "unreachable"))
    exact ⟨_, hfailed (.refreshFailed "unreachable") rfl⟩
  · obtain ⟨-, -, -, hcrash⟩ := hagree (.credentials 0)
    exact hcrash "no thread" rfl

end TelemetryAuth
