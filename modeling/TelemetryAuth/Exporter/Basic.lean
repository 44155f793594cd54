import TelemetryAuth.Credential.Provider
import TelemetryAuth.Properties

/-!
# Exporters

An exporter sends spans over one of two transports, or it is some other exporter, which reports a
name and keeps what it gets.  An exporter over a transport has settings and may have a header
source, which is asked on every export.

Exporters are values: an `Edit` makes a new one that differs in what the edit names and in nothing
else.  A header source has an identity, so that one can tell an exporter that kept its source from
one that got another source of the same kind; and so has an exporter without a transport.

The static headers are kept in no order of their own.  Where they are gone through, the order is a
parameter (`HeaderOrder`), by name unless one is given.
-/

namespace TelemetryAuth

/-- How spans travel to a collector. -/
inductive Transport
  | grpc
  | http
  deriving DecidableEq, Inhabited

/-- The settings of an exporter, the same for both transports. -/
structure ExportSettings where
  endpoint : String
  timeout : Milliseconds
  headers : Dictionary String
  insecure : Bool
  deriving DecidableEq

/-- A header source as attached to an exporter. -/
structure AttachedSource where
  identity : Nat
  source : HeaderSource
  deriving DecidableEq

/-- An exporter over a transport. -/
structure TransportExporter where
  transport : Transport
  settings : ExportSettings
  source : Option AttachedSource
  deriving DecidableEq

/-- An exporter as it is handed to customizers. -/
inductive Exporter
  | transport (exporter : TransportExporter)
  | named (name : String) (identity : Nat := 0)
  deriving DecidableEq

namespace Transport

/-- The name of an exporter over a transport. -/
def exporterName : Transport → String
  | .grpc => "otlp/grpc"
  | .http => "otlp/http"

/-- The endpoint if none is set. -/
def defaultEndpoint : Transport → String
  | .grpc => "http://localhost:4317"
  | .http => "http://localhost:4318/v1/traces"

end Transport

namespace ExportSettings

/-- The time that one export may take if none is set. -/
def defaultTimeout : Milliseconds := 10000

/-- The settings for an endpoint with everything else at its default. -/
def ofEndpoint (endpoint : String) : ExportSettings := ⟨endpoint, defaultTimeout, .empty, false⟩

end ExportSettings

/-! ### Diagnostic text -/

/-- A length of time in its greatest unit, with as many decimal places as are needed. -/
def Milliseconds.debugText (time : Milliseconds) : String :=
  if time = 0 then "0ns"
  else if time < 1000 then toString time ++ "ms"
  else
    let places := Text.dropEndWhile (· == '0') (Text.padded 3 (time % 1000))
    String.ofList <|
      Nat.toDigits 10 (time / 1000) ++ (if places = [] then [] else '.' :: places) ++ ['s']

namespace TransportExporter

/-- The exporter that a transport has without any setting. -/
def ofDefaults (transport : Transport) : TransportExporter :=
  ⟨transport, .ofEndpoint transport.defaultEndpoint, none⟩

/-- The diagnostic text of the settings. -/
def settingsText (settings : ExportSettings) (order : HeaderOrder := .byName) : String :=
  "OtlpSettings \x7b endpoint: " ++ Text.quote settings.endpoint ++
    ", timeout: " ++ Milliseconds.debugText settings.timeout ++
    ", headers: " ++ Properties.bracedText (order.list settings.headers) ++
    ", insecure: " ++ toString settings.insecure ++ " \x7d"

/-- The diagnostic text of an exporter; of a header source it shows the presence only. -/
def debugText (exporter : TransportExporter) (order : HeaderOrder := .byName) : String :=
  let kind := match exporter.transport with
    | .grpc => "OtlpGrpc"
    | .http => "OtlpHttp"
  let source := match exporter.source with
    | none => "None"
    | some _ => "Some(" ++ HeaderSource.debugText ++ ")"
  kind ++ "(" ++ kind ++ "Exporter \x7b config: OtlpConfig \x7b settings: " ++
    settingsText exporter.settings order ++ ", header_source: " ++ source ++ " \x7d \x7d)"

end TransportExporter

/-! ### Edits -/

/-- One change of an exporter over a transport. -/
inductive Edit
  | endpoint (value : String)
  | timeout (value : Milliseconds)
  | header (name value : String)
  | insecure (value : Bool)
  | source (value : AttachedSource)

/-- An exporter after one change. -/
def TransportExporter.edit (exporter : TransportExporter) : Edit → TransportExporter
  | .endpoint value => { exporter with settings := { exporter.settings with endpoint := value } }
  | .timeout value => { exporter with settings := { exporter.settings with timeout := value } }
  | .header name value =>
    let headers := exporter.settings.headers.insert name value
    { exporter with settings := { exporter.settings with headers } }
  | .insecure value => { exporter with settings := { exporter.settings with insecure := value } }
  | .source value => { exporter with source := some value }

namespace Exporter

/-- The name of an exporter. -/
def name : Exporter → String
  | .transport exporter => exporter.transport.exporterName
  | .named name _ => name

/-- The header source of an exporter, if it has one. -/
def source? : Exporter → Option AttachedSource
  | .transport exporter => exporter.source
  | .named _ _ => none

/-- An exporter after some changes; one without a transport stays as it is. -/
def edit (exporter : Exporter) (edits : List Edit) : Exporter :=
  match exporter with
  | .transport exporter => .transport (edits.foldl TransportExporter.edit exporter)
  | .named name identity => .named name identity

/-- Whether two exporters share one header source; `none` unless both have one. -/
def sameSource? (before after : Exporter) : Option Bool := do
  let a ← before.source?
  let b ← after.source?
  return decide (a.identity = b.identity)

/-! ### Authentication -/

/-- The target of what is logged when an exporter is authenticated. -/
def authenticationTarget : String := "gcp_otlp_auth::gcp::exporter"

/-- The entry that records the authentication of an exporter. -/
def authenticationEntry : Exporter → Log.Entry
  | .transport ⟨.http, _, _⟩ =>
    .withMessage .info authenticationTarget "🔐 Adding GCP auth headers to OTLP/HTTP exporter" []
  | .transport ⟨.grpc, _, _⟩ =>
    .withMessage .info authenticationTarget "🔐 Adding GCP auth headers to OTLP/gRPC exporter" []
  | .named name _ =>
    .withMessage .debug authenticationTarget "Leaving non-OTLP exporter unchanged"
      [("exporter", .text name)]

/-- Attaches a source to an exporter that can carry headers; any other exporter stays as it is. -/
def authenticate (exporter : Exporter) (source : AttachedSource) : Exporter :=
  exporter.edit [.source source]

end Exporter

end TelemetryAuth
