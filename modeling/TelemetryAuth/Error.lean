import TelemetryAuth.RequiredOption

/-!
# Errors

`CredentialError` is a failure to obtain credentials or to refresh them, and only a failed refresh
is worth another attempt.  `SetupError` is any failure to set up a pipeline.  Each error has a
wording (`message`), a diagnostic text (`debugText`) and the texts of the errors below it
(`sources`).
-/

namespace TelemetryAuth

/-! ### Credentials -/

/-- A failure of the credential back end. -/
inductive CredentialError
  | noIdentity (reason : String)
  | refreshFailed (reason : String)
  deriving DecidableEq

namespace CredentialError

/-- What the back end said. -/
def reason : CredentialError → String
  | .noIdentity reason => reason
  | .refreshFailed reason => reason

/-- Whether the failure happened on the way of a single export, so that a retry makes sense. -/
def mayRetry : CredentialError → Bool
  | .noIdentity _ => false
  | .refreshFailed _ => true

/-- The wording of the error. -/
def message : CredentialError → String
  | .noIdentity reason =>
    "Unable to retrieve Google Application Default Credentials: " ++ reason
  | .refreshFailed reason =>
    "Unable to refresh Google Application Default Credentials: " ++ reason

/-- The diagnostic text of the error. -/
def debugText : CredentialError → String
  | .noIdentity reason => "FailedInitialRetrieval(" ++ Text.quote reason ++ ")"
  | .refreshFailed reason => "FailedRefresh(" ++ Text.quote reason ++ ")"

/-- The texts of the errors below this one. -/
def sources (error : CredentialError) : List String := [error.reason]

end CredentialError

/-! ### Exporters -/

/-- Why the exporter library refuses a configuration. -/
inductive ExporterFault
  | invalidUri (uri reason : String)
  | unknownCompression (name : String)
  | unavailableCompression (feature algorithm : String)
  | internal (reason : String)
  deriving DecidableEq

/-- The wording of the library's refusal. -/
def ExporterFault.message : ExporterFault → String
  | .invalidUri uri reason => "invalid URI " ++ uri ++ ". Reason " ++ reason
  | .unknownCompression name => "unsupported compression algorithm \x27" ++ name ++ "\x27"
  | .unavailableCompression feature algorithm =>
    "feature \x27" ++ feature ++ "\x27 is required to use the compression algorithm \x27" ++
      algorithm ++ "\x27"
  | .internal reason => "Reason: " ++ reason

/-! ### Pipelines -/

/-- A failure to set up a pipeline. -/
inductive SetupError
  | credential (error : CredentialError)
  | missingOption (error : MissingOption)
  | exporter (reason : String)
  | selection (reason : String)
  deriving DecidableEq

namespace SetupError

/-- The exporter library's refusal as a failure of the pipeline. -/
def ofExporterFault (fault : ExporterFault) : SetupError := .exporter fault.message

/-- The wording of the error. -/
def message : SetupError → String
  | .credential error => "Authentication error: " ++ error.message
  | .missingOption error => "Configuration error: " ++ error.message
  | .exporter reason => "Exporter error: " ++ reason
  | .selection reason => "Initialization error: " ++ reason

/-- The diagnostic text of the error. -/
def debugText : SetupError → String
  | .credential error => "Auth(" ++ error.debugText ++ ")"
  | .missingOption error => "Config(" ++ error.debugText ++ ")"
  | .exporter reason => "Exporter(" ++ Text.quote reason ++ ")"
  | .selection reason => "Init(" ++ Text.quote reason ++ ")"

/-- The texts of the errors below this one, the nearest first. -/
def sources : SetupError → List String
  | .credential error => error.message :: error.sources
  | .missingOption error => [error.message]
  | .exporter _ => []
  | .selection _ => []

end SetupError

end TelemetryAuth
