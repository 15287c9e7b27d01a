import Telemetry.Text.Quoted
import Telemetry.Trace.Tracer

namespace Telemetry

structure Service where
  component : String
  deriving DecidableEq

/-- How an operation ended: with a result, or because it was given up half way. -/
inductive Ending (ε α : Type) where
  | returned (result : Except ε α)
  | abandoned

structure SpanGuard where
  span : SpanContext
  isFinished : Bool := false
  deriving DecidableEq

namespace SpanGuard

variable {ε α : Type}

def finish (text : ε → String) (result : Except ε α) (g : SpanGuard) (t : Tracer) :
    SpanGuard × Tracer :=
  let t := match result with
    | .error e => t.recordError g.span (text e)
    | .ok _ => t
  ({ g with isFinished := true }, t.finish g.span)

/-- What happens when a guard is given up, which comes after finishing it too. -/
def drop (g : SpanGuard) (t : Tracer) : Tracer :=
  if g.isFinished then t else t.finish g.span

end SpanGuard

namespace Service

def spanName (s : Service) (operation : String) : String := s.component ++ "." ++ operation

def debug (s : Service) : String :=
  "BaseService \x7b component: " ++ Text.quoted s.component ++ ", .. \x7d"

def trace (s : Service) (parent : Option SpanContext) (operation : String) (t : Tracer) :
    SpanContext × Tracer :=
  t.start (s.spanName operation) parent none

/-- Ends the span of an operation. One that was given up counts neither as a success nor as a
failure. -/
def conclude {ε α : Type} (text : ε → String) (span : SpanContext) (ending : Ending ε α)
    (t : Tracer) : Tracer :=
  let guard : SpanGuard := { span }
  match ending with
  | .returned result =>
    let (guard, t) := guard.finish text result t
    guard.drop t
  | .abandoned => guard.drop t

section Running

variable {m : Type → Type} [Monad m] [MonadStateOf Tracer m] {ε α : Type}

def withSpan (s : Service) (text : ε → String) (parent : Option SpanContext) (operation : String)
    (body : SpanContext → m (Ending ε α)) : m (Ending ε α) := do
  let span ← modifyGet (s.trace parent operation)
  let ending ← body span
  modify (conclude text span ending)
  return ending

/-- Runs an operation in its span, whose context is the current one meanwhile. -/
def withCurrentSpan (s : Service) (text : ε → String) (parent : Option SpanContext)
    (operation : String) (body : SpanContext → m (Ending ε α)) : m (Ending ε α) :=
  s.withSpan text parent operation fun span ↦ do
    let outer := (← get).current
    modify fun t ↦ { t with current := some span }
    let ending ← body span
    modify fun t ↦ { t with current := outer }
    return ending

end Running

end Service

end Telemetry
