import Telemetry.Lifecycle.Basic

namespace Telemetry.Lifecycle

variable {κ : Type}

inductive Verb where
  | start
  | stop
  deriving DecidableEq

def Verb.name : Verb → String
  | start => "start"
  | stop => "stop"

def Verb.ofName? (s : String) : Option Verb :=
  [start, stop].find? fun verb ↦ verb.name == s

def Timeouts.limit (t : Timeouts) : Verb → Duration
  | .start => t.start
  | .stop => t.stop

/-- What a call does next. The later forms belong to stopping, whose `cause` is the failure of a
start callback when it is a rollback. -/
inductive Call (κ : Type) where
  | enter (verb : Verb)
  | seek
  | starting (name : String)
  | count
  | settle
  | drain (cause : Option Failure)
  | unwind (cause : Option Failure) (rest : List (String × Option κ)) (failures : List Failure)
  | stopping (cause : Option Failure) (name : String) (rest : List (String × Option κ))
      (failures : List Failure)
  | close (cause : Option Failure) (failures : List Failure)
  | done (result : Except Error Unit)

namespace Call

inductive Turn (κ : Type) where
  | step (next : Call κ) (l : Lifecycle κ) (events : List Event)
  | invoke (next : Call κ) (l : Lifecycle κ) (events : List Event) (verb : Verb) (callback : κ)
  | waiting
  | finished (result : Except Error Unit)

def rollbackEvents (cause : Option Failure) (failures : List Failure) : List Event :=
  if cause.isSome then
    failures.map fun f ↦ .ofTexts .warn "rollback stop hook failed"
      [("hook", f.hook), ("error", f.error.message)]
  else []

def verdict (cause : Option Failure) (failures : List Failure) : Except Error Unit :=
  match cause with
  | some f => .error (.start f)
  | none => if failures.isEmpty then .ok () else .error (.stop failures)

def turn (l : Lifecycle κ) : Call κ → Turn κ
  | enter .start => match l.enterStart with
    | .ok l => .step seek l []
    | .error e => .step (done (.error e)) l []
  | enter .stop => match l.enterStop with
    | .ok _ => .step (drain none) l []
    | .error e => .step (done (.error e)) l []
  | seek => match l.takeStart with
    | none => .step settle l []
    | some ((_, none), l) => .step count l []
    | some ((name, some callback), l) =>
      .invoke (starting name) l [.ofTexts .debug "running start hook" [("hook", name)]] .start
        callback
  | starting _ => .waiting
  | count => .step seek l.countStarted []
  | settle => .step (done (.ok ())) l.settle []
  | drain cause =>
    let (stops, l) := l.drain
    .step (unwind cause stops []) l []
  | unwind cause [] failures => .step (close cause failures) l []
  | unwind cause ((_, none) :: rest) failures => .step (unwind cause rest failures) l []
  | unwind cause ((name, some callback) :: rest) failures =>
    .invoke (stopping cause name rest failures) l
      [.ofTexts .debug "running stop hook" [("hook", name)]] .stop callback
  | stopping .. => .waiting
  | close cause failures =>
    .step (done (verdict cause failures)) l.close (rollbackEvents cause failures)
  | done result => .finished result

def resume (result : Except HookError Unit) : Call κ → Call κ × List Event
  | starting name => match result with
    | .ok _ => (count, [])
    | .error e =>
      (drain (some ⟨name, e⟩), [.ofTexts .error "start hook failed, rolling back"
        [("hook", name), ("error", e.message)]])
  | stopping cause name rest failures => match result with
    | .ok _ => (unwind cause rest failures, [])
    | .error e =>
      (unwind cause rest (failures ++ [⟨name, e⟩]), [.ofTexts .warn "stop hook failed"
        [("hook", name), ("error", e.message)]])
  | other => (other, [])

def awaited : Call κ → Option Verb
  | starting _ => some .start
  | stopping .. => some .stop
  | _ => none

end Call

end Telemetry.Lifecycle
