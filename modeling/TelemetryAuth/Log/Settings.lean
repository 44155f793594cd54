import TelemetryAuth.Properties

/-!
# Logging settings

The name of the service, the filter text and the output format are properties.  A format other than
`json` means text for a reader.
-/

namespace TelemetryAuth

/-- How log entries are written. -/
inductive LogStyle
  | pretty
  | json
  deriving DecidableEq

/-- The settings of the log output. -/
structure LogSettings where
  serviceName : String
  filterText : String
  format : LogStyle
  deriving DecidableEq

namespace LogSettings

/-- The key of the filter text. -/
def filterKey : String := "otel.log.level"

/-- The key of the output format. -/
def formatKey : String := "otel.log.format"

/-- The settings without any property. -/
def default : LogSettings := ⟨"gcp-otlp-auth", "info", .pretty⟩

/-- The settings that properties ask for. -/
def ofProperties (properties : Properties) : LogSettings where
  serviceName := (properties.get? Properties.serviceNameKey).getD default.serviceName
  filterText := (properties.get? filterKey).getD default.filterText
  format := if properties.get? formatKey = some "json" then .json else .pretty

/-- The settings with another filter text. -/
def withFilterText (settings : LogSettings) (filterText : String) : LogSettings :=
  { settings with filterText }

/-- The diagnostic text of the settings. -/
def debugText (settings : LogSettings) : String :=
  let format := match settings.format with
    | .pretty => "Pretty"
    | .json => "Json"
  "LoggingConfig \x7b service_name: " ++ Text.quote settings.serviceName ++
    ", log_level: " ++ Text.quote settings.filterText ++ ", log_format: " ++ format ++ " \x7d"

end LogSettings

end TelemetryAuth
