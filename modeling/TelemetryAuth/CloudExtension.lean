import TelemetryAuth.Exporter.Selection
import TelemetryAuth.Pipeline.Build
import TelemetryAuth.Platform

/-!
# The extension that authenticates a pipeline

The extension runs after all extensions with an ordinary order.  It attaches the credential to the
exporter, sets the project on the resource, and supplies three defaults: the telemetry endpoint of
the region, encryption, and the detection of the platform.  Defaults lie under what the user sets.
-/

namespace TelemetryAuth.CloudExtension

/-- The order of the extension, one below the greatest number of 32 bits. -/
def order : Int := 0x7FFFFFFE

/-- The telemetry endpoint of a region. -/
def endpointOfRegion (region : String) : String :=
  "https://staging-" ++ region ++ "-telemetry.example.com:443"

/-- The defaults for a region. -/
def regionDefaults (region : String) : Properties :=
  Dictionary.ofList [
    (Properties.endpointKey, endpointOfRegion region),
    (Properties.insecureKey, "false"),
    (Pipeline.platformDetectionKey, "true")]

/-- The defaults that the extension supplies. -/
def defaults (env : Environment) (properties : Properties) :
    Except MissingOption Properties :=
  (RequiredOption.region.value env properties).map regionDefaults

/-- The entry that records the registration of the extension. -/
def registrationEntry (billedProject : String) : Log.Entry :=
  .withMessage .info "gcp_otlp_auth::gcp" "🔐 Registering GCP auth customizations"
    [("quota_project_id", .shown billedProject)]

/-- The extension for an environment, a credential-backed source and the project it bills. -/
def extension (env : Environment) (source : AttachedSource) (billedProject : String) :
    Extension where
  order := order
  announcement := [registrationEntry billedProject]
  suppliers := [defaults env]
  exporterCustomizers := [fun exporter _ =>
    (exporter.authenticate source, [exporter.authenticationEntry])]
  resourceCustomizers := [fun resource properties => resource.withProject env properties]

end TelemetryAuth.CloudExtension
