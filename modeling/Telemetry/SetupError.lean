import Telemetry.Credentials.Fault
import Telemetry.Endpoint
import Telemetry.Export.Target
import Telemetry.Logging.Filter

namespace Telemetry

inductive ExporterPart where
  | endpoint (text : String) (cause : EndpointFault)
  | client
  | target (cause : Export.Refusal)
  | other (reason : String)
  deriving DecidableEq

/-- The transport words its refusal of a URL in a way of its own for each signal. -/
def refusalLead : Signal → String
  | .traces => "Exporter otlp encountered the following error(s): "
  | .metrics => "Metrics exporter otlp failed with "
  | .logs => "Exporter otlp encountered the following errors: "

def ExporterPart.reason (k : Signal) : ExporterPart → String
  | endpoint text cause => "invalid endpoint '" ++ text ++ "': " ++ cause.message
  | client => "HTTP client: builder error"
  | target cause => "HTTP exporter: " ++ refusalLead k ++ "invalid URI " ++ cause.reason
  | other reason => reason

inductive LoggingFault where
  | alreadySet
  | filter (fault : Logging.DirectiveFault)
  | other (reason : String)
  deriving DecidableEq

def LoggingFault.reason : LoggingFault → String
  | alreadySet => "a global default trace dispatcher has already been set"
  | filter fault => "invalid log level: " ++ fault.message
  | other reason => reason

inductive SetupError where
  | config (fault : ConfigFault)
  | credentials (fault : Credentials.Fault)
  | exporter (signal : Signal) (part : ExporterPart)
  | logging (fault : LoggingFault)
  deriving DecidableEq

namespace SetupError

def message : SetupError → String
  | config f => "invalid telemetry configuration: " ++ f.reason
  | credentials f => f.message
  | exporter k part => "failed to build " ++ k.name ++ " exporter: " ++ part.reason k
  | logging f => "failed to initialize logging: " ++ f.reason

def sources : SetupError → List String
  | credentials f => f.sources
  | _ => []

end SetupError

end Telemetry
