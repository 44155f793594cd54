import Mathlib.Tactic.SplitIfs
import TelemetryAuth.Exporter.Selection
import TelemetryAuth.Proofs.Text.Trim

/-!
# What the selected exporter is

Seven keys decide on an exporter over a transport.  Two pairs of them have an order, and there a
value that is empty counts like any other (`AskedProtocol`, `AskedEndpoint`); a value that has to be
read gives way to a default if it cannot be.  All this is one relation between properties and an
exporter, `Selected`, and the exporter of some properties is the one that is related to them
(`ofProperties_eq_ok_iff`); there is none if and only if the protocol is unknown
(`ofProperties_eq_error_iff`).

A general endpoint over HTTP is the root of a collector.  Slashes at its end do not count
(`withoutSlashes_append`), so the path of the traces stands behind one slash.

The main result is `ofProperties_follows_keys`.
-/

namespace TelemetryAuth

/-! ### Protocols -/

/-- The protocol that asks for a transport. -/
def Transport.protocol : Transport → String
  | .grpc => "grpc"
  | .http => "http/protobuf"

theorem Transport.ofProtocol?_eq_some_iff {protocol : String} {transport : Transport} :
    ofProtocol? protocol = some transport ↔ protocol = transport.protocol := by
  unfold ofProtocol?
  constructor
  · intro h
    split_ifs at h with hgrpc hhttp
    · obtain rfl := Option.some.inj h
      exact hgrpc
    · obtain rfl := Option.some.inj h
      exact hhttp
  · rintro rfl
    cases transport <;> rfl

theorem Transport.ofProtocol?_eq_none_iff {protocol : String} :
    ofProtocol? protocol = none ↔ ∀ transport : Transport, protocol ≠ transport.protocol := by
  simp only [Option.eq_none_iff_forall_ne_some, ne_eq, ofProtocol?_eq_some_iff]

/-! ### The root of a collector -/

/-- Slashes, one behind the other. -/
def slashes (count : Nat) : String := String.ofList (List.replicate count '/')

/-- A root is `base` with slashes behind it, and `base` does not end with one. -/
structure Unslashed (root base : String) : Prop where
  root_eq : ∃ count, root = base ++ slashes count
  last : base.toList.getLast? ≠ some '/'

namespace TransportExporter

variable {properties : Properties} {transport : Transport} {exporter : TransportExporter}
  {root base value : String}

theorem withoutSlashes_eq_iff : withoutSlashes root = base ↔ Unslashed root base := by
  constructor
  · rintro rfl
    obtain ⟨back, hback, hroot⟩ := Text.exists_dropEndWhile_append (· == '/') root.toList
    have hslashes : back = List.replicate back.length '/' := by
      refine List.eq_replicate_of_mem fun c hmem => ?_
      simpa using hback c hmem
    refine ⟨⟨back.length, ?_⟩, ?_⟩
    · rw [slashes, ← hslashes, withoutSlashes, ← String.ofList_append, ← hroot,
        String.ofList_toList]
    · rw [withoutSlashes, String.toList_ofList]
      intro hlast
      have hslash := Text.of_getLast?_dropEndWhile hlast
      cases hslash
  · rintro ⟨⟨count, rfl⟩, hlast⟩
    have hdropped : ∀ c ∈ List.replicate count '/', (c == '/') = true := by
      intro c hmem
      rw [List.eq_of_mem_replicate hmem]
      rfl
    have hkept : ∀ c, base.toList.getLast? = some c → (c == '/') = false := by
      rintro c hc
      rw [beq_eq_false_iff_ne]
      rintro rfl
      exact hlast hc
    rw [withoutSlashes, slashes, String.toList_append, String.toList_ofList,
      Text.dropEndWhile_append hdropped, Text.dropEndWhile_of_last hkept, String.ofList_toList]

/-- Slashes at the end of a root do not count. -/
theorem withoutSlashes_append (root : String) (count : Nat) :
    withoutSlashes (root ++ slashes count) = withoutSlashes root := by
  obtain ⟨⟨own, hroot⟩, hlast⟩ := withoutSlashes_eq_iff.1 (rfl : withoutSlashes root = _)
  refine withoutSlashes_eq_iff.2 ⟨⟨own + count, ?_⟩, hlast⟩
  have hcount : slashes (own + count) = slashes own ++ slashes count := by
    rw [slashes, slashes, slashes, ← String.ofList_append, List.replicate_append_replicate]
  rw [hcount, ← String.append_assoc, ← hroot]

/-! ### What properties ask for -/

open Properties

/-- The protocol that properties ask for. -/
inductive AskedProtocol (properties : Properties) : String → Prop
  /-- The protocol for traces goes before the general one, even if it is empty. -/
  | traces {value : String} (traces : properties.get? tracesProtocolKey = some value) :
      AskedProtocol properties value
  | general {value : String} (traces : properties.get? tracesProtocolKey = none)
      (general : properties.get? protocolKey = some value) : AskedProtocol properties value
  | default (traces : properties.get? tracesProtocolKey = none)
      (general : properties.get? protocolKey = none) : AskedProtocol properties "grpc"

/-- The endpoint that properties ask for over a transport. -/
inductive AskedEndpoint (properties : Properties) (transport : Transport) : String → Prop
  /-- The endpoint for traces is taken as it is. -/
  | traces {value : String} (traces : properties.get? tracesEndpointKey = some value) :
      AskedEndpoint properties transport value
  /-- The general endpoint is a root over HTTP. -/
  | rooted {root base : String} (http : transport = .http)
      (traces : properties.get? tracesEndpointKey = none)
      (general : properties.get? endpointKey = some root) (unslashed : Unslashed root base) :
      AskedEndpoint properties transport (base ++ "/v1/traces")
  /-- The general endpoint is taken as it is over gRPC. -/
  | general {value : String} (grpc : transport = .grpc)
      (traces : properties.get? tracesEndpointKey = none)
      (general : properties.get? endpointKey = some value) :
      AskedEndpoint properties transport value
  /-- Without an endpoint a collector is looked for on this host, where it listens by custom. -/
  | grpcDefault (grpc : transport = .grpc) (traces : properties.get? tracesEndpointKey = none)
      (general : properties.get? endpointKey = none) :
      AskedEndpoint properties transport "http://localhost:4317"
  | httpDefault (http : transport = .http) (traces : properties.get? tracesEndpointKey = none)
      (general : properties.get? endpointKey = none) :
      AskedEndpoint properties transport "http://localhost:4318/v1/traces"

/-- The exporter that properties ask for. -/
structure Selected (properties : Properties) (exporter : TransportExporter) : Prop where
  protocol : AskedProtocol properties exporter.transport.protocol
  endpoint : AskedEndpoint properties exporter.transport exporter.settings.endpoint
  timeout : exporter.settings.timeout = (milliseconds? properties timeoutKey).getD 10000
  headers : exporter.settings.headers = keyValueMap properties headersKey
  insecure : exporter.settings.insecure = (bool? properties insecureKey).getD false
  source : exporter.source = none

theorem askedProtocol_iff : AskedProtocol properties value ↔ protocol properties = value := by
  constructor
  · intro h
    cases h with
    | traces traces => simp [protocol, traces]
    | general traces general => simp [protocol, traces, general]
    | default traces general => simp [protocol, traces, general]
  · rintro rfl
    unfold protocol
    cases htraces : properties.get? tracesProtocolKey with
    | some value => exact .traces htraces
    | none =>
      cases hgeneral : properties.get? protocolKey with
      | some value => exact .general htraces hgeneral
      | none => exact .default htraces hgeneral

theorem askedEndpoint_iff :
    AskedEndpoint properties transport value ↔ endpoint transport properties = value := by
  constructor
  · intro h
    cases h with
    | traces traces => simp [endpoint, traces]
    | rooted http traces general unslashed =>
      subst http
      simp [endpoint, traces, general, withoutSlashes_eq_iff.2 unslashed, tracesPath]
    | general grpc traces general =>
      subst grpc
      simp [endpoint, traces, general]
    | grpcDefault grpc traces general =>
      subst grpc
      simp [endpoint, traces, general, Transport.defaultEndpoint]
    | httpDefault http traces general =>
      subst http
      simp [endpoint, traces, general, Transport.defaultEndpoint]
  · rintro rfl
    unfold endpoint
    cases htraces : properties.get? tracesEndpointKey with
    | some value => exact .traces htraces
    | none =>
      cases hgeneral : properties.get? endpointKey with
      | none =>
        cases transport with
        | grpc => exact .grpcDefault rfl htraces hgeneral
        | http => exact .httpDefault rfl htraces hgeneral
      | some root =>
        cases transport with
        | grpc => exact .general rfl htraces hgeneral
        | http => exact .rooted rfl htraces hgeneral (withoutSlashes_eq_iff.1 rfl)

/-- **The exporter of some properties is the one that they ask for.** -/
theorem ofProperties_eq_ok_iff :
    ofProperties properties = .ok exporter ↔ Selected properties exporter := by
  unfold ofProperties
  constructor
  · intro h
    split at h
    · rename_i transport htransport
      obtain rfl := Except.ok.inj h
      exact {
        protocol := askedProtocol_iff.2 (Transport.ofProtocol?_eq_some_iff.1 htransport)
        endpoint := askedEndpoint_iff.2 rfl
        timeout := rfl
        headers := rfl
        insecure := rfl
        source := rfl }
    · cases h
  · rintro ⟨hprotocol, hendpoint, htimeout, hheaders, hinsecure, hsource⟩
    obtain ⟨transport, ⟨endpoint, timeout, headers, insecure⟩, source⟩ := exporter
    rw [askedProtocol_iff.1 hprotocol, Transport.ofProtocol?_eq_some_iff.2 rfl]
    dsimp only at hendpoint htimeout hheaders hinsecure hsource ⊢
    rw [ofTransport, askedEndpoint_iff.1 hendpoint, htimeout, hheaders, hinsecure, hsource]
    rfl

/-- **There is no exporter if and only if the protocol is unknown.** -/
theorem ofProperties_eq_error_iff {error : SetupError} :
    ofProperties properties = .error error ↔
      ∃ protocol, AskedProtocol properties protocol ∧
        (∀ transport : Transport, protocol ≠ transport.protocol) ∧
        error = .selection ("Unsupported OTLP protocol: " ++ protocol) := by
  have hasked : AskedProtocol properties (protocol properties) := askedProtocol_iff.2 rfl
  unfold ofProperties
  constructor
  · intro h
    split at h
    · cases h
    · rename_i hunknown
      exact ⟨_, hasked, Transport.ofProtocol?_eq_none_iff.1 hunknown, (Except.error.inj h).symm⟩
  · rintro ⟨other, hother, hunknown, rfl⟩
    rw [← askedProtocol_iff.1 hother, ← Transport.ofProtocol?_eq_none_iff] at hunknown
    rw [hunknown, ← askedProtocol_iff.1 hother]

/-- The keys that decide on an exporter. -/
def selectionKeys : List String :=
  [tracesProtocolKey, protocolKey, tracesEndpointKey, endpointKey, timeoutKey, headersKey,
    insecureKey]

/-- No other key counts. -/
theorem ofProperties_congr {other : Properties}
    (h : ∀ key ∈ selectionKeys, properties.get? key = other.get? key) :
    ofProperties properties = ofProperties other := by
  simp only [selectionKeys, List.forall_mem_cons] at h
  obtain ⟨htracesProtocol, hprotocol, htracesEndpoint, hendpoint, htimeout, hheaders, hinsecure,
    -⟩ := h
  have hsame : protocol properties = protocol other := by
    rw [protocol, protocol, htracesProtocol, hprotocol]
  have hexporter : ∀ transport, ofTransport transport properties = ofTransport transport other := by
    intro transport
    simp only [ofTransport, endpoint, milliseconds?, keyValueMap, bool?, htracesEndpoint,
      hendpoint, htimeout, hheaders, hinsecure]
  simp only [ofProperties, hsame, hexporter]

/-- Over HTTP slashes at the end of the general endpoint do not count. -/
theorem ofProperties_insert_slashes (h : AskedProtocol properties "http/protobuf") (root : String)
    (count : Nat) :
    ofProperties (Dictionary.insert properties endpointKey (root ++ slashes count)) =
      ofProperties (Dictionary.insert properties endpointKey root) := by
  have hprotocol : ∀ value, protocol (Dictionary.insert properties endpointKey value) =
      "http/protobuf" := by
    intro value
    rw [protocol, Dictionary.get?_insert, Dictionary.get?_insert, if_neg (by decide),
      if_neg (by decide)]
    exact askedProtocol_iff.1 h
  have hendpoint : endpoint .http (Dictionary.insert properties endpointKey (root ++ slashes count))
      = endpoint .http (Dictionary.insert properties endpointKey root) := by
    have hkeys : endpointKey ≠ tracesEndpointKey := by decide
    simp only [endpoint, Dictionary.get?_insert, if_neg hkeys, if_true, withoutSlashes_append]
  have hexporter :
      ofTransport .http (Dictionary.insert properties endpointKey (root ++ slashes count)) =
        ofTransport .http (Dictionary.insert properties endpointKey root) := by
    -- The other settings are read from other keys.
    have htimeout : endpointKey ≠ timeoutKey := by decide
    have hheaders : endpointKey ≠ headersKey := by decide
    have hinsecure : endpointKey ≠ insecureKey := by decide
    simp only [ofTransport, hendpoint, milliseconds?, keyValueMap, bool?, Dictionary.get?_insert,
      if_neg htimeout, if_neg hheaders, if_neg hinsecure]
  have hhttp : Transport.ofProtocol? "http/protobuf" = some .http := rfl
  simp only [ofProperties, hprotocol, hhttp, hexporter]

/-- **Seven keys decide on the exporter.**

- Properties ask for one protocol, and if it is neither `grpc` nor `http/protobuf` there is no
  exporter, whatever else they hold; the failure names the protocol.  In all other cases there is
  the exporter that they ask for: of the transport of the protocol, with the endpoint that they ask
  for, with the settings that can be read and defaults for the others, and without a source.
- Over HTTP any number of slashes may be put behind the general endpoint.
- Properties that agree on the seven keys have the same exporter. -/
theorem ofProperties_follows_keys :
    (∀ properties,
      (∃! protocol, AskedProtocol properties protocol) ∧
      (∀ error, ofProperties properties = .error error ↔
        ∃ protocol, AskedProtocol properties protocol ∧ protocol ≠ "grpc" ∧
          protocol ≠ "http/protobuf" ∧
          error = .selection ("Unsupported OTLP protocol: " ++ protocol)) ∧
      ∀ exporter, ofProperties properties = .ok exporter ↔ Selected properties exporter) ∧
    (∀ properties root count, AskedProtocol properties "http/protobuf" →
      ofProperties (Dictionary.insert properties endpointKey (root ++ slashes count)) =
        ofProperties (Dictionary.insert properties endpointKey root)) ∧
    ∀ properties other : Properties,
      (∀ key ∈ selectionKeys, properties.get? key = other.get? key) →
      ofProperties properties = ofProperties other := by
  refine ⟨fun properties => ⟨?_, fun error => ?_, fun exporter => ofProperties_eq_ok_iff⟩, ?_, ?_⟩
  · refine ⟨protocol properties, askedProtocol_iff.2 rfl, fun other hother => ?_⟩
    exact (askedProtocol_iff.1 hother).symm
  · have hunknown : ∀ protocol : String, (∀ transport : Transport, protocol ≠ transport.protocol) ↔
        protocol ≠ "grpc" ∧ protocol ≠ "http/protobuf" := by
      intro protocol
      constructor
      · intro h
        exact ⟨h .grpc, h .http⟩
      · rintro ⟨hgrpc, hhttp⟩ (_ | _)
        · exact hgrpc
        · exact hhttp
    simp only [ofProperties_eq_error_iff, hunknown, and_assoc]
  · intro properties root count hhttp
    exact ofProperties_insert_slashes hhttp root count
  · intro properties other hsame
    exact ofProperties_congr hsame

/-! ### A collector over HTTP

The protocol for traces and the general one differ, the time is malformed and the root ends with
slashes.  With another time and without the root, and without any properties, the endpoint is a
default. -/

/-- What the user sets apart from the endpoint. -/
def collectorSettings : Properties := .ofList [
  (tracesProtocolKey, "http/protobuf"), (protocolKey, "grpc"), (headersKey, "x-tenant = a"),
  (timeoutKey, "soon"), (insecureKey, "TRUE")]

/-- The exporter that they ask for together with the endpoint. -/
def collectorExporter : TransportExporter :=
  ⟨.http, ⟨"https://collector/v1/traces", 10000, .ofList [("x-tenant", "a")], true⟩, none⟩

theorem ofProperties_follows_keys_collector :
    AskedProtocol collectorSettings "http/protobuf" ∧
    ofProperties (Dictionary.insert collectorSettings endpointKey "https://collector//") =
      .ok collectorExporter ∧
    ofProperties
        (Dictionary.insert collectorSettings endpointKey ("https://collector//" ++ "///")) =
      .ok collectorExporter ∧
    (∀ key ∈ selectionKeys, Dictionary.get? collectorSettings key =
      Dictionary.get? (Dictionary.insert collectorSettings exporterKey "otlp") key) ∧
    ofProperties collectorSettings =
      ofProperties (Dictionary.insert collectorSettings exporterKey "otlp") ∧
    ofProperties (Dictionary.insert collectorSettings tracesProtocolKey "") =
      .error (.selection "Unsupported OTLP protocol: ") ∧
    ofProperties (Dictionary.insert collectorSettings timeoutKey " +2500 ") = .ok
      ⟨.http, ⟨"http://localhost:4318/v1/traces", 2500, .ofList [("x-tenant", "a")], true⟩, none⟩ ∧
    ofProperties .empty = .ok ⟨.grpc, ⟨"http://localhost:4317", 10000, .empty, false⟩, none⟩ := by
  obtain ⟨hselected, hslashes, hkeys⟩ := ofProperties_follows_keys
  have hhttp : AskedProtocol collectorSettings "http/protobuf" := .traces (by decide +kernel)
  have hexporter : ofProperties (Dictionary.insert collectorSettings endpointKey
      "https://collector//") = .ok collectorExporter := by
    have hroot : Unslashed "https://collector//" "https://collector" :=
      ⟨⟨2, by decide +kernel⟩, by decide +kernel⟩
    have hgeneral : Dictionary.get? (Dictionary.insert collectorSettings endpointKey
        "https://collector//") endpointKey = some "https://collector//" := by decide +kernel
    refine ((hselected _).2.2 _).2 ⟨?_, ?_, ?_, ?_, ?_, ?_⟩
    · exact .traces (by decide +kernel)
    · exact .rooted rfl (by decide +kernel) hgeneral hroot
    · decide +kernel
    · decide +kernel
    · decide +kernel
    · rfl
  have hsame : ∀ key ∈ selectionKeys, Dictionary.get? collectorSettings key =
      Dictionary.get? (Dictionary.insert collectorSettings exporterKey "otlp") key := by
    decide +kernel
  refine ⟨hhttp, hexporter, ?_, hsame, hkeys _ _ hsame, ?_, ?_, ?_⟩
  · rw [← hexporter]
    exact hslashes collectorSettings "https://collector//" 3 hhttp
  · exact ((hselected _).2.1 _).2
      ⟨"", .traces (by decide +kernel), by decide, by decide, rfl⟩
  · refine ((hselected _).2.2 _).2 ⟨?_, ?_, ?_, ?_, ?_, rfl⟩
    · exact .traces (by decide +kernel)
    · exact .httpDefault rfl (by decide +kernel) (by decide +kernel)
    · decide +kernel
    · decide +kernel
    · decide +kernel
  · exact ((hselected _).2.2 _).2
      ⟨.default rfl rfl, .grpcDefault rfl rfl rfl, rfl, rfl, rfl, rfl⟩

end TransportExporter

end TelemetryAuth
