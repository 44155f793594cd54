import TelemetryAuth.Exporter.Install
import TelemetryAuth.Exporter.Selection
import TelemetryAuth.Pipeline.Run
import TelemetryAuth.Platform
import TelemetryAuth.Resource.Base
import TelemetryAuth.Sampling

/-!
# Building a pipeline

A pipeline is built in phases.  The extensions announce themselves in their order.  Suppliers
provide defaults, over which the properties of the user are laid (`assemble`).  The assembled
properties select an exporter, which the customizers change one after the other.  The resource
starts from its base and passes through the customizers of the resource.  At last the exporter is
installed.

Every supplier is shown the properties of the user only; every other callback is shown the assembled
properties.
-/

namespace TelemetryAuth.Pipeline

/-- What a pipeline is built from. -/
structure Plan where
  properties : Properties
  extensions : List Extension
  factories : Dictionary ExporterFactory
  environment : Environment
  /-- How the static headers are gone through when the exporter is installed. -/
  headerOrder : HeaderOrder := .byName

namespace Plan

/-- The plan without properties and extensions, whose resource is detected in an environment. -/
def ofEnvironment (environment : Environment) : Plan where
  properties := .empty
  extensions := []
  factories := .empty
  environment := environment

/-- Sets one property. -/
def setProperty (plan : Plan) (key value : String) : Plan :=
  { plan with properties := plan.properties.insert key value }

/-- Sets all properties of a dictionary. -/
def setProperties (plan : Plan) (properties : Properties) : Plan :=
  { plan with properties := plan.properties.insertMany properties.toList }

/-- Registers an extension behind those registered before. -/
def addExtension (plan : Plan) (extension : Extension) : Plan :=
  { plan with extensions := plan.extensions ++ [extension] }

/-- Registers a factory under the key that selects it; of two for one key the later stays. -/
def addFactory (plan : Plan) (key : String) (factory : ExporterFactory) : Plan :=
  { plan with factories := plan.factories.insert key factory }

end Plan

/-- A pipeline that has been built. -/
structure Built where
  properties : Properties
  resource : Resource
  exporter : Option Exporter
  sampling : Sampling

/-- The key that turns the detection of the platform on. -/
def platformDetectionKey : String := "otel.resource.providers.gcp.enabled"

/-- The target of what the build logs. -/
def logTarget : String := "gcp_otlp_auth::pipeline"

/-! ### The phases -/

/-- The extensions announce themselves. -/
def announce : List (Nat × Extension) → Run Unit
  | [] => .done ()
  | (place, extension) :: rest => do
    Run.record (.customize place)
    Run.write extension.announcement
    announce rest

/-- The suppliers provide defaults, each on top of those before. -/
def supply (user defaults : Properties) : List (Nat × DefaultsSupplier) → Run Properties
  | [] => .done defaults
  | (place, supplier) :: rest => do
    Run.record (.supply place user)
    let supplied ← Run.lift ((supplier user).mapError .missingOption)
    supply user (defaults.insertMany supplied.toList) rest

/-- Defaults under the properties of the user. -/
def assemble (user : Properties) (suppliers : List (Nat × DefaultsSupplier)) :
    Run Properties := do
  let defaults ← supply user .empty suppliers
  return defaults.insertMany user.toList

/-- The exporter that the assembled properties select. -/
def select (factories : Dictionary ExporterFactory) (properties : Properties) :
    Run (Option Exporter) :=
  let key := (properties.get? Properties.exporterKey).getD "otlp"
  if key = "none" then .done none
  else if key = "otlp" then
    .lift <| (TransportExporter.ofProperties properties).map fun exporter =>
      some (.transport exporter)
  else
    match factories.get? key with
    | none => .lift (.error (.selection ("Unknown span exporter: " ++ key)))
    | some factory => do
      Run.record (.factory (factory properties) properties)
      return some (.named (factory properties) 0)

/-- The exporter passes through its customizers. -/
def runExporterCustomizers (properties : Properties) (exporter : Exporter) :
    List (Nat × ExporterCustomizer) → Run Exporter
  | [] => .done exporter
  | (place, customizer) :: rest => do
    Run.record (.exporter place exporter properties)
    let (exporter, entries) := customizer exporter properties
    Run.write entries
    runExporterCustomizers properties exporter rest

/-- The resource passes through its customizers. -/
def runResourceCustomizers (properties : Properties) (resource : Resource) :
    List (Nat × ResourceCustomizer) → Run Resource
  | [] => .done resource
  | (place, customizer) :: rest => do
    Run.record (.resource place resource properties)
    let resource ← Run.lift ((customizer resource properties).mapError .missingOption)
    runResourceCustomizers properties resource rest

/-- The resources that detectors report: that of the platform, if its detection is turned on. -/
def detected (environment : Environment) (properties : Properties) : List Resource :=
  if Properties.bool? properties platformDetectionKey = some true then
    [Platform.resource environment]
  else []

/-- Customizes an exporter if one is selected. -/
def customizeSelected (properties : Properties) (customizers : List (Nat × ExporterCustomizer)) :
    Option Exporter → Run (Option Exporter)
  | none => .done none
  | some exporter => do return some (← runExporterCustomizers properties exporter customizers)

/-- Installs an exporter if there is one. -/
def installSelected (process : Environment) (order : HeaderOrder) : Option Exporter → Run Unit
  | none => .done ()
  | some exporter => do
    Run.write [exporter.installEntry]
    Run.lift (exporter.install process order)

/-- Builds a pipeline in a process. -/
def build (process : Environment) (plan : Plan) : Run Built := do
  let extensions := Extension.arranged plan.extensions
  announce extensions
  let properties ← assemble plan.properties (Extension.callbacks (·.suppliers) extensions)
  Run.write [.withMessage .debug logTarget "Pipeline properties assembled"
    [("count", .integer properties.size)]]
  let selected ← select plan.factories properties
  let exporter ← customizeSelected properties
    (Extension.callbacks (·.exporterCustomizers) extensions) selected
  let base := Resource.base process properties (detected plan.environment properties)
  let resource ← runResourceCustomizers properties base
    (Extension.callbacks (·.resourceCustomizers) extensions)
  installSelected process plan.headerOrder exporter
  Run.write [.withMessage .info logTarget "✅ Telemetry pipeline built" []]
  return ⟨properties, resource, exporter, .ofExport process⟩

/-! ### Spans that are exported -/

namespace Built

/-- The spans of a list that reach an exporter that keeps what it gets. -/
def kept {α : Type} (built : Built) (spans : List α) : List α :=
  if (built.exporter.map Exporter.keepsSpans).getD false then built.sampling.recorded spans else []

/-- Whether a flush of some spans succeeds; without an exporter there is nothing to fail. -/
def flushes {α : Type} (built : Built) (spans : List α) : Bool :=
  (built.exporter.map fun exporter =>
    exporter.flushes (built.sampling.recorded spans).length).getD true

end Built

end TelemetryAuth.Pipeline
