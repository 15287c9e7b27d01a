import Telemetry.Duration
import Telemetry.Event
import Telemetry.Text.Quoted

namespace Telemetry

inductive HookError where
  | failed (reason : String)
  | timedOut (after : Duration)
  deriving DecidableEq

def HookError.message : HookError → String
  | failed reason => reason
  | timedOut after => "timed out after " ++ after.text

/-- A pair of callbacks, each of which is run once at most. -/
structure Hook (κ : Type) where
  name : String
  onStart : Option κ := none
  onStop : Option κ := none

def Hook.debug {κ : Type} (h : Hook κ) : String :=
  let word (b : Bool) : String := if b then "true" else "false"
  "Hook \x7b name: " ++ Text.quoted h.name ++ ", on_start: " ++ word h.onStart.isSome ++
    ", on_stop: " ++ word h.onStop.isSome ++ " \x7d"

namespace Lifecycle

inductive State where
  | idle
  | starting
  | running
  | stopping
  | stopped
  deriving DecidableEq

def State.name : State → String
  | idle => "Idle"
  | starting => "Starting"
  | running => "Running"
  | stopping => "Stopping"
  | stopped => "Stopped"

def State.ofName? (s : String) : Option State :=
  [idle, starting, running, stopping, stopped].find? fun state ↦ state.name == s

structure Failure where
  hook : String
  error : HookError
  deriving DecidableEq

def Failure.text (f : Failure) : String := f.hook ++ ": " ++ f.error.message

inductive Error where
  | alreadyStarted
  | notRunning (state : State)
  | start (failure : Failure)
  | stop (failures : List Failure)
  deriving DecidableEq

def Error.message : Error → String
  | alreadyStarted => "lifecycle already started"
  | notRunning s => "lifecycle is not running (state: " ++ s.name ++ ")"
  | start f => "start hook '" ++ f.hook ++ "' failed: " ++ f.error.message
  | stop fs =>
    fs.length.repr ++ " stop hook(s) failed: " ++ "; ".intercalate (fs.map (·.text))

structure Timeouts where
  start : Duration := .ofSeconds 15
  stop : Duration := .ofSeconds 15

end Lifecycle

structure Lifecycle (κ : Type) where
  hooks : List (Hook κ) := []
  started : Nat := 0
  state : Lifecycle.State := .idle

namespace Lifecycle

variable {κ : Type}

def size (l : Lifecycle κ) : Nat := l.hooks.length

/-- Whether a hook is taken in now. In a running lifecycle it must have no start callback, which
would never be run. -/
def accepts (l : Lifecycle κ) (h : Hook κ) : Bool :=
  match l.state with
  | .idle | .starting => true
  | .running => h.onStart.isNone
  | .stopping | .stopped => false

/-- Registers a hook, if it is taken in. In a running lifecycle it counts as started. -/
def append (l : Lifecycle κ) (h : Hook κ) : Lifecycle κ :=
  if l.accepts h then
    let hooks := l.hooks ++ [h]
    { l with hooks, started := if l.state = .running then hooks.length else l.started }
  else l

def appendEvents (l : Lifecycle κ) (h : Hook κ) : List Event :=
  if l.accepts h then []
  else if l.state = .running then
    [.ofTexts .warn "hook with a start callback appended to a running lifecycle, ignoring"
      [("hook", h.name)]]
  else
    [.ofTexts .warn "hook appended to a stopping lifecycle, ignoring"
      [("hook", h.name), ("state", l.state.name)]]

def enterStart (l : Lifecycle κ) : Except Error (Lifecycle κ) :=
  if l.state = .idle then .ok { l with state := .starting } else .error .alreadyStarted

/-- The name of the first hook that has not started and its start callback, which the hook gives
away. -/
def takeStart (l : Lifecycle κ) : Option ((String × Option κ) × Lifecycle κ) :=
  l.hooks[l.started]?.map fun h ↦
    ((h.name, h.onStart), { l with hooks := l.hooks.set l.started { h with onStart := none } })

def countStarted (l : Lifecycle κ) : Lifecycle κ := { l with started := l.started + 1 }

def settle (l : Lifecycle κ) : Lifecycle κ := { l with state := .running }

def enterStop (l : Lifecycle κ) : Except Error Unit :=
  if l.state = .running then .ok () else .error (.notRunning l.state)

def drain (l : Lifecycle κ) : List (String × Option κ) × Lifecycle κ :=
  ((l.hooks.take l.started).reverse.map fun h ↦ (h.name, h.onStop),
    { hooks := l.hooks.drop l.started, started := 0, state := .stopping })

def close (l : Lifecycle κ) : Lifecycle κ := { l with state := .stopped }

def debug (l : Lifecycle κ) (t : Timeouts) : String :=
  "Lifecycle \x7b hooks: " ++ l.size.repr ++ ", started: " ++ l.started.repr ++ ", state: " ++
    l.state.name ++ ", start_timeout: " ++ t.start.text ++ ", stop_timeout: " ++ t.stop.text ++
    " \x7d"

end Lifecycle

end Telemetry
