import Telemetry.Export.Prepare
import Telemetry.Provider.Binding
import Telemetry.Resource
import Telemetry.Trace.Tracer

namespace Telemetry

inductive Feed where
  | spans (tracer : Tracer) (delay : Duration)
  | measurements (interval : Duration)
  | records

structure Pipeline where
  signal : Signal
  url : Url
  client : Export.Client
  resource : Resource
  feed : Feed
  isShutDown : Bool := false

namespace Pipeline

def tracer? (p : Pipeline) : Option Tracer :=
  match p.feed with
  | .spans tracer _ => some tracer
  | _ => none

def withTracer (tracer : Tracer) (p : Pipeline) : Pipeline :=
  match p.feed with
  | .spans _ delay => { p with feed := .spans tracer delay }
  | _ => p

def feedOf (ids : IdSource) (c : ExporterConfig) : Signal → Feed
  | .traces => .spans { ids, sampler := .ofPolicy c.sampling } c.effectiveBatchTimeout
  | .metrics => .measurements c.effectiveMetricInterval
  | .logs => .records

def build (ids : IdSource) (resource : Resource) (c : ExporterConfig) (k : Signal) :
    Reporting (Except SetupError (Option Pipeline)) := do
  if ← Export.isDisabled c k then return .ok none
  match ← Export.prepare c k with
  | .error e => return .error e
  | .ok (url, client) =>
    match Export.refusal? url with
    | some r => return .error (.exporter k (.target r))
    | none => return .ok (some { signal := k, url, client, resource, feed := feedOf ids c k })

def alreadyShutDown : Signal → String
  | .traces => "TracerProvider already shutdown"
  | .metrics => "Metrics error: metrics provider already shut down"
  | .logs => "LoggerProvider already shutdown"

def pending (p : Pipeline) : List SpanRecord := (p.tracer?.map (·.finished)).getD []

/-- Shuts a provider down, once, where nobody takes in what it sends. Then spans that are still to
be sent make it fail. -/
def shutdown (p : Pipeline) : Attempt × Pipeline :=
  if p.isShutDown then ({ result := .error (alreadyShutDown p.signal) }, p)
  else
    let closed := { p with isShutDown := true }
    ({ result := if p.pending.isEmpty then .ok () else .error "the endpoint cannot be reached" },
      match p.tracer? with
      | some t => closed.withTracer t.shutdown.2
      | none => closed)

end Pipeline

end Telemetry
