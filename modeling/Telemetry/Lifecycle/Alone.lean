import Telemetry.Lifecycle.Call

namespace Telemetry.Lifecycle

/-- What running a callback comes to. Without a span it never ends. -/
structure Outcome where
  span : Option Duration := some .zero
  result : Except HookError Unit := .ok ()
  reports : List Event := []

namespace Outcome

def endsWithin (o : Outcome) (limit : Duration) : Bool :=
  o.span.any fun d ↦ d.nanos ≤ limit.nanos

def resultWithin (o : Outcome) (limit : Duration) : Except HookError Unit :=
  if o.endsWithin limit then o.result else .error (.timedOut limit)

def reportsWithin (o : Outcome) (limit : Duration) : List Event :=
  if o.endsWithin limit then o.reports else []

def spanWithin (o : Outcome) (limit : Duration) : Duration :=
  ⟨min (o.span.getD limit).nanos limit.nanos⟩

end Outcome

structure Course (κ σ : Type) where
  lifecycle : Lifecycle κ
  surroundings : σ
  elapsed : Duration := .zero
  events : List Event := []

variable {κ σ : Type}

def Call.proceed (t : Timeouts) (exec : κ → σ → Outcome × σ) :
    Nat → Call κ → Course κ σ → Call κ × Course κ σ
  | 0, c, s => (c, s)
  | fuel + 1, c, s =>
    match c.turn s.lifecycle with
    | .step next lifecycle events =>
      next.proceed t exec fuel { s with lifecycle, events := s.events ++ events }
    | .invoke next lifecycle events verb callback =>
      let limit := t.limit verb
      let (outcome, surroundings) := exec callback s.surroundings
      let (next, more) := next.resume (outcome.resultWithin limit)
      next.proceed t exec fuel
        { lifecycle, surroundings
          elapsed := ⟨s.elapsed.nanos + (outcome.spanWithin limit).nanos⟩
          events := s.events ++ events ++ outcome.reportsWithin limit ++ more }
    | .waiting | .finished _ => (c, s)

/-- Makes a call. It takes no more than a few turns for every hook. -/
def runAlone (t : Timeouts) (exec : κ → σ → Outcome × σ) (verb : Verb) (s : Course κ σ) :
    Option (Except Error Unit) × Course κ σ :=
  match Call.proceed t exec (6 * (s.lifecycle.size + 2)) (.enter verb) s with
  | (.done result, s) => (some result, s)
  | (_, s) => (none, s)

end Telemetry.Lifecycle
