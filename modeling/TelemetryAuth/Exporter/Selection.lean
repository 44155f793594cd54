import TelemetryAuth.Exporter.Basic

/-!
# The exporter that properties ask for

The protocol chooses the transport.  A property for traces alone goes before the general one, even
if it is empty.  The endpoint for traces is taken as it is; the general endpoint is the root of a
collector, so over HTTP the path of the traces is put behind it, with one slash between.
-/

namespace TelemetryAuth

namespace Properties

/-- The key that selects the exporter. -/
def exporterKey : String := "otel.traces.exporter"
/-- The key of the general protocol. -/
def protocolKey : String := "otel.exporter.otlp.protocol"
/-- The key of the protocol for traces. -/
def tracesProtocolKey : String := "otel.exporter.otlp.traces.protocol"
/-- The key of the general endpoint. -/
def endpointKey : String := "otel.exporter.otlp.endpoint"
/-- The key of the endpoint for traces. -/
def tracesEndpointKey : String := "otel.exporter.otlp.traces.endpoint"
/-- The key of the headers. -/
def headersKey : String := "otel.exporter.otlp.headers"
/-- The key of the time that one export may take. -/
def timeoutKey : String := "otel.exporter.otlp.timeout"
/-- The key that turns encryption off. -/
def insecureKey : String := "otel.exporter.otlp.insecure"

end Properties

namespace Transport

/-- The transport of a protocol. -/
def ofProtocol? (protocol : String) : Option Transport :=
  if protocol = "grpc" then some .grpc
  else if protocol = "http/protobuf" then some .http
  else none

end Transport

namespace TransportExporter

open Properties

/-- The path of the traces behind the root of a collector. -/
def tracesPath : String := "/v1/traces"

/-- The root of a collector without slashes at its end. -/
def withoutSlashes (root : String) : String :=
  String.ofList (Text.dropEndWhile (· == '/') root.toList)

/-- The protocol that properties ask for. -/
def protocol (properties : Properties) : String :=
  ((properties.get? tracesProtocolKey).or (properties.get? protocolKey)).getD "grpc"

/-- The endpoint that properties ask for. -/
def endpoint (transport : Transport) (properties : Properties) : String :=
  match properties.get? tracesEndpointKey with
  | some endpoint => endpoint
  | none =>
    match properties.get? endpointKey, transport with
    | some root, .http => withoutSlashes root ++ tracesPath
    | some endpoint, .grpc => endpoint
    | none, transport => transport.defaultEndpoint

/-- The exporter over a transport with the settings that properties ask for. -/
def ofTransport (transport : Transport) (properties : Properties) : TransportExporter where
  transport := transport
  settings := {
    endpoint := endpoint transport properties
    timeout := (milliseconds? properties timeoutKey).getD ExportSettings.defaultTimeout
    headers := keyValueMap properties headersKey
    insecure := (bool? properties insecureKey).getD false }
  source := none

/-- The exporter that properties ask for. -/
def ofProperties (properties : Properties) : Except SetupError TransportExporter :=
  match Transport.ofProtocol? (protocol properties) with
  | some transport => .ok (ofTransport transport properties)
  | none => .error (.selection ("Unsupported OTLP protocol: " ++ protocol properties))

end TransportExporter

end TelemetryAuth
