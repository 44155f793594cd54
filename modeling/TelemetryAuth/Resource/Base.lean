import TelemetryAuth.Environment
import TelemetryAuth.Properties
import TelemetryAuth.Resource

/-!
# The resource that customizers start from

Four layers lie on top of each other, the later over the earlier: what the telemetry SDK says of
itself and of the process (`sdkDefaults`), what detectors report, the attributes listed in a
property, and the service name set as a property.  A service name that is set to the empty text
still replaces the one below.
-/

namespace TelemetryAuth.Resource

/-- The key of the service name among the attributes. -/
def serviceNameKey : String := "service.name"

/-- The key of the property that lists attributes. -/
def attributesKey : String := "otel.resource.attributes"

/-- The attributes listed in a variable of the process. -/
def processAttributes (process : Environment) : Resource :=
  match process.get? "OTEL_RESOURCE_ATTRIBUTES" with
  | some listed => Dictionary.ofList (ofTexts (Text.keyValues listed))
  | none => .empty

/-- The service name that the process gives itself: its own variable unless that is empty, else the
listed attribute, else a name that says it is unknown. -/
def processServiceName (process : Environment) : AttributeValue :=
  match (process.get? "OTEL_SERVICE_NAME").filter (· ≠ "") with
  | some name => .text name
  | none => ((processAttributes process).get? serviceNameKey).getD (.text "unknown_service")

/-- What the telemetry SDK reports without any setting of the pipeline. -/
def sdkDefaults (process : Environment) : Resource :=
  let own : Resource := Dictionary.ofList [
    (serviceNameKey, processServiceName process),
    ("telemetry.sdk.language", .text "rust"),
    ("telemetry.sdk.name", .text "opentelemetry"),
    ("telemetry.sdk.version", .text "0.31.0")]
  own.merge (processAttributes process)

/-- The service name that a property sets, as an attribute. -/
def configuredServiceName (properties : Properties) : List (String × AttributeValue) :=
  match properties.get? Properties.serviceNameKey with
  | some name => [(serviceNameKey, .text name)]
  | none => []

/-- The resource from which the customizers of a pipeline start. -/
def base (process : Environment) (properties : Properties) (detected : List Resource) : Resource :=
  let listed := ofTexts (Properties.keyValueMap properties attributesKey).toList
  ((detected.foldl merge (sdkDefaults process)).setAll listed).setAll
    (configuredServiceName properties)

end TelemetryAuth.Resource
