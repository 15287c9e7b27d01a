import Telemetry.Trace.Sampler

namespace Telemetry

inductive SpanStatus where
  | unset
  | error (text : String)
  deriving DecidableEq

structure SpanEvent where
  name : String
  attributes : List (String × String) := []
  deriving DecidableEq

structure SpanRecord where
  context : SpanContext
  name : String
  parent : Option SpanContext := none
  status : SpanStatus := .unset
  events : List SpanEvent := []
  deriving DecidableEq

structure IdSource where
  trace : Nat → BitVec 128
  span : Nat → BitVec 64

structure Tracer where
  ids : IdSource
  sampler : Sampler := .parentBased .alwaysOn
  count : Nat := 0
  recording : List SpanRecord := []
  finished : List SpanRecord := []
  isShutDown : Bool := false
  current : Option SpanContext := none

namespace Tracer

/-- Starts a span below a parent. A root gets the trace id that is asked for, or a new one. Nothing
starts after the shutdown. -/
def start (name : String) (parent : Option SpanContext) (root? : Option (BitVec 128)) (t : Tracer) :
    SpanContext × Tracer :=
  if t.isShutDown then (.none, t)
  else
    let valid := parent.filter (·.isValid)
    let traceId := (valid.map (·.traceId)).getD (root?.getD (t.ids.trace t.count))
    let sampled := t.sampler.samples parent traceId
    let context : SpanContext :=
      { traceId
        spanId := t.ids.span t.count
        flags := if sampled then 1 else 0
        state := (parent.map (·.state)).getD {} }
    let t := { t with count := t.count + 1 }
    if sampled then
      (context, { t with recording := t.recording ++ [{ context, name, parent := valid }] })
    else (context, t)

def isRecording (s : SpanContext) (t : Tracer) : Bool :=
  t.recording.any (·.context.spanId == s.spanId)

def modifyRecord (s : SpanContext) (f : SpanRecord → SpanRecord) (t : Tracer) : Tracer :=
  { t with recording := t.recording.map fun r ↦ if r.context.spanId = s.spanId then f r else r }

def recordError (s : SpanContext) (text : String) : Tracer → Tracer :=
  modifyRecord s fun r ↦
    { r with
      status := .error text
      events := r.events ++ [{ name := "exception", attributes := [("exception.message", text)] }] }

/-- Ends a span, once. After the shutdown nothing is exported. -/
def finish (s : SpanContext) (t : Tracer) : Tracer :=
  let (ended, recording) := t.recording.partition (·.context.spanId == s.spanId)
  { t with recording, finished := if t.isShutDown then t.finished else t.finished ++ ended }

/-- Shuts the tracer down and forgets what it has exported. A second time this fails. -/
def shutdown (t : Tracer) : Bool × Tracer :=
  (!t.isShutDown, { t with isShutDown := true, finished := [] })

end Tracer

end Telemetry
