import Telemetry.Registry
import Telemetry.Service

namespace Telemetry

structure Installation where
  resource : Option Resource := none
  traces : Option Nat := none
  metrics : Option Nat := none
  logs : Option Nat := none
  tracer : Option Nat := none

namespace Installation

def silent : Installation := {}

def provide (resource : Resource) (c : ExporterConfig) (k : Signal) (reg : Registry) :
    Except SetupError (Option Nat) × Registry :=
  match reg.provider resource c k with
  | (.error e, reg) => (.error e, reg)
  | (.ok found, reg) => (.ok found.provider, (reg.bind c.serviceName k found).2)

/-- Sets telemetry up for a service. The first signal that fails ends it. Without a provider for
traces of its own a service uses the default one of the moment. -/
def install (resource : Resource) (c : ExporterConfig) (reg : Registry) :
    Except SetupError Installation × Registry :=
  match provide resource c .traces reg with
  | (.error e, reg) => (.error e, reg)
  | (.ok traces, reg) =>
    match provide resource c .metrics reg with
    | (.error e, reg) => (.error e, reg)
    | (.ok metrics, reg) =>
      match provide resource c .logs reg with
      | (.error e, reg) => (.error e, reg)
      | (.ok logs, reg) =>
        let reg := { reg with ambient := { reg.ambient with propagator := .traceContext } }
        (.ok { resource := some resource, traces, metrics, logs
               tracer := traces <|> reg.ambient.tracer }, reg)

def debug (i : Installation) : String :=
  let word (b : Bool) : String := if b then "true" else "false"
  let service := match i.resource with
    | some r => "Some(" ++ Text.quoted r.serviceName ++ ")"
    | none => "None"
  "TelemetryModule \x7b service: " ++ service ++ ", traces: " ++ word i.traces.isSome ++
    ", metrics: " ++ word i.metrics.isSome ++ ", logs: " ++ word i.logs.isSome ++ " \x7d"

end Installation

end Telemetry
