import Telemetry.Logging.Output
import Telemetry.SetupError

namespace Telemetry.Logging

def filterOf (level : String) (user : Option String) : Except DirectiveFault Filter :=
  match user.map Filter.parse with
  | some (.ok f) => .ok f
  | _ => Filter.parse level

def outputOf (c : LoggingConfig) (user : Option String) (exporting : Bool) :
    Except LoggingFault Output :=
  match filterOf c.level user with
  | .ok filter => .ok { filter, format := c.effectiveFormat, exporting }
  | .error f => .error (.filter f)

def opening (c : LoggingConfig) : Entry :=
  { target := "svckit_telemetry::logging"
    event := .ofTexts .info "logging initialized"
      [("service", c.serviceName), ("environment", c.environment),
        ("format", c.effectiveFormat.title)] }

def ofExport (e : Event) : Entry := { event := e, target := "svckit_telemetry::export" }

structure Log where
  output : Option Output := none
  written : List Json := []
  exported : List String := []

namespace Log

/-- Writes an entry, and exports its span, which the filter has no say in. -/
def write (l : Log) (e : Entry) : Log :=
  match l.output with
  | none => l
  | some o =>
    let spans := if o.exporting then e.scope.toList.map (·.name) else []
    { l with written := l.written ++ o.write e, exported := l.exported ++ spans }

def initialize? (c : LoggingConfig) (user : Option String) (exporting : Bool) (l : Log) :
    Except SetupError Unit × Log :=
  match outputOf c user exporting, l.output with
  | .error f, _ => (.error (.logging f), l)
  | .ok _, some _ => (.error (.logging .alreadySet), l)
  | .ok o, none => (.ok (), { l with output := some o }.write (opening c))

end Log

end Telemetry.Logging
