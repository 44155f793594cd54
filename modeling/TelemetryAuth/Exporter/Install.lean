import TelemetryAuth.Exporter.Compression
import TelemetryAuth.Hook.Grpc
import TelemetryAuth.Host
import TelemetryAuth.Uri

/-!
# Installing an exporter

An exporter is installed when its settings can be put into effect.  Over the procedure call
transport the static headers must be metadata; over HTTP a header that is not well formed is left
out instead.  The process must not ask for compression, the endpoint must be an identifier, and an
encrypted call needs a host that a certificate can name.

An empty endpoint leaves the choice to the process: its variable for traces, its general variable,
and a default in the end.
-/

namespace TelemetryAuth

/-! ### Endpoints -/

/-- The variable of the process that names an endpoint for traces. -/
def tracesEndpointVariable : String := "OTEL_EXPORTER_OTLP_TRACES_ENDPOINT"

/-- The variable of the process that names a general endpoint. -/
def endpointVariable : String := "OTEL_EXPORTER_OTLP_ENDPOINT"

namespace TransportExporter

/-- Checks that a text is an identifier. -/
def checkEndpoint (endpoint : String) : Except SetupError Uri :=
  match Uri.read endpoint with
  | .ok uri => .ok uri
  | .error fault => .error (.ofExporterFault (.invalidUri endpoint fault.message))

/-- Checks the static headers of the procedure call transport.  Of several that are not well formed
the first is named. -/
def checkMetadata (headers : CallHeaders) (order : HeaderOrder := .byName) :
    Except SetupError Unit :=
  match HeaderMap.empty.attach Header.isMetadataName headers order with
  | .ok _ => .ok ()
  | .error fault => .error (.exporter (Grpc.faultMessage fault))

/-- Whether an endpoint asks for an encrypted call. -/
def isEncrypted (settings : ExportSettings) : Bool :=
  !settings.insecure && "https".toList.isPrefixOf settings.endpoint.toList

/-- Checks that a certificate can be issued for the host of an endpoint. -/
def checkHost (uri : Uri) : Except SetupError Unit :=
  match uri.host? with
  | some host =>
    if Host.isCertifiable host then .ok ()
    else .error (.ofExporterFault (.internal "transport error"))
  | none => .error (.ofExporterFault (.internal "transport error"))

/-- Puts the settings of an exporter into effect. -/
def install (process : Environment) (exporter : TransportExporter)
    (order : HeaderOrder := .byName) : Except SetupError Unit := do
  let settings := exporter.settings
  match exporter.transport with
  | .grpc =>
    checkMetadata settings.headers order
    Compression.check process .grpc
    let fallback := (process.get? tracesEndpointVariable).or (process.get? endpointVariable)
    let uri ← checkEndpoint <|
      if settings.endpoint ≠ "" then settings.endpoint
      else fallback.getD Transport.grpc.defaultEndpoint
    if isEncrypted settings then checkHost uri
  | .http =>
    if settings.endpoint ≠ "" then
      let _ ← checkEndpoint settings.endpoint
    Compression.check process .http

end TransportExporter

namespace Exporter

/-- The entry that records the installation of an exporter. -/
def installEntry (exporter : Exporter) : Log.Entry :=
  .withMessage .info "gcp_otlp_auth::pipeline::exporter" "📤 Installing span exporter"
    [("exporter", .text exporter.name)]

/-- Installs an exporter. -/
def install (process : Environment) (exporter : Exporter) (order : HeaderOrder := .byName) :
    Except SetupError Unit :=
  match exporter with
  | .transport exporter => exporter.install process order
  | .named _ _ => .ok ()

/-! ### Export without a network -/

/-- Whether the exporter keeps the spans that it gets. -/
def keepsSpans : Exporter → Bool
  | .transport _ => false
  | .named _ _ => true

/-- Whether a flush of some spans succeeds where no collector can be reached. -/
def flushes (exporter : Exporter) (spans : Nat) : Bool := exporter.keepsSpans || spans == 0

end Exporter

end TelemetryAuth
