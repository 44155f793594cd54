import TelemetryAuth.Environment
import TelemetryAuth.RequiredOption
import TelemetryAuth.Resource

/-!
# The cloud platform that runs the program

Three serverless platforms are told apart by the variables they set.  The first platform with a
variable present wins, and a variable counts as present even when it is empty.  The attributes of a
platform take each detail from the first variable present in a list over all platforms.
-/

namespace TelemetryAuth

/-- A serverless platform. -/
inductive Platform
  | cloudRun
  | cloudFunctions
  | appEngine
  deriving DecidableEq

namespace Platform

/-- The value of the platform attribute. -/
def label : Platform → String
  | .cloudRun => "gcp_cloud_run"
  | .cloudFunctions => "gcp_cloud_functions"
  | .appEngine => "gcp_app_engine"

/-- The variables whose presence shows a platform. -/
def markers : Platform → List String
  | .cloudRun => ["K_SERVICE", "K_REVISION"]
  | .cloudFunctions => ["FUNCTION_NAME", "FUNCTION_TARGET"]
  | .appEngine => ["GAE_SERVICE", "GAE_VERSION"]

/-- The platforms in the order in which they are tried. -/
def all : List Platform := [.cloudRun, .cloudFunctions, .appEngine]

/-- The first platform with a variable present. -/
def detect? (env : Environment) : Option Platform :=
  all.find? fun platform => env.anyPresent platform.markers

/-- The variables that may name the region. -/
def regionVariables : List String := ["CLOUD_RUN_REGION", "FUNCTION_REGION", "GAE_REGION"]

/-- The variables that may name the service. -/
def serviceVariables : List String := ["K_SERVICE", "FUNCTION_NAME", "GAE_SERVICE"]

/-- The variables that may name the revision. -/
def revisionVariables : List String := ["K_REVISION", "GAE_VERSION"]

/-- An attribute for the first variable present in a list, if there is one. -/
def detail (env : Environment) (key : String) (names : List String) :
    List (String × AttributeValue) :=
  match env.firstPresent? names with
  | some value => [(key, .text value)]
  | none => []

/-- The attributes that an environment shows; none without a platform. -/
def resource (env : Environment) : Resource :=
  match detect? env with
  | none => .empty
  | some platform =>
    Dictionary.ofList <|
      [("cloud.provider", .text "gcp"), ("cloud.platform", .text platform.label)] ++
        detail env "cloud.region" regionVariables ++
        detail env "faas.name" serviceVariables ++
        detail env "faas.version" revisionVariables

end Platform

namespace Resource

/-- The key of the project that telemetry belongs to. -/
def projectKey : String := "gcp.project_id"

/-- Sets the project attribute from the project option and changes nothing else. -/
def withProject (resource : Resource) (env : Environment) (properties : Properties) :
    Except MissingOption Resource :=
  (RequiredOption.project.value env properties).map fun project =>
    resource.setAll [(projectKey, .text project)]

end Resource

end TelemetryAuth
