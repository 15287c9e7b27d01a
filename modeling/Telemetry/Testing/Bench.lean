import Telemetry.Testing.Recording

namespace Telemetry.Testing

structure Bench where
  signal : Signal
  cache : ProviderCache Nat := {}
  lifecycle : Lifecycle (Callback Nat) := {}
  timeouts : Lifecycle.Timeouts := {}
  recorder : Recorder := {}
  events : List Event := []

namespace Bench

open ProviderCache (Request)

def report (b : Bench) (events : List Event) : Bench := { b with events := b.events ++ events }

def add (b : Bench) (p : Recording) : Nat × Bench :=
  let (place, recorder) := b.recorder.add p
  (place, { b with recorder })

def create (b : Bench) (c : ExporterConfig) : Except ConfigFault (Option Nat) × Bench :=
  let (made, recorder) := b.recorder.create c
  (made, { b with recorder })

def settle (b : Bench) (r : Request) (candidate : Option Nat) : Resolved Nat × Bench :=
  let s := b.cache.settle r candidate
  let b := { b with cache := s.cache }.report (s.events b.signal r)
  match s.discarded with
  | none => (s.resolved, b)
  | some place => (s.resolved, { b with recorder := (b.recorder.shutdown b.signal place).2 })

abbrev Finish := Except ConfigFault (Resolved Nat)

def createMany (c : ExporterConfig) : Nat → Bench → List (Except ConfigFault (Option Nat)) × Bench
  | 0, b => ([], b)
  | n + 1, b =>
    let (made, b) := b.create c
    let (more, b) := createMany c n b
    (made :: more, b)

def settleMany (r : Request) :
    List (Except ConfigFault (Option Nat)) → Bench → List Finish × Bench
  | [], b => ([], b)
  | .error f :: rest, b =>
    let (more, b) := settleMany r rest b
    (.error f :: more, b)
  | .ok candidate :: rest, b =>
    let (resolved, b) := b.settle r candidate
    let (more, b) := settleMany r rest b
    (.ok resolved :: more, b)

/-- Lookups of one key that all take their first step before one of them takes its second. They run
elsewhere, so nothing is reported here. -/
def race (b : Bench) (n : Nat) (r : Request) (c : ExporterConfig) : List Finish × Bench :=
  match b.cache.hit? r with
  | some resolved => (List.replicate n (.ok resolved), b)
  | none =>
    let (made, b) := createMany c n b
    let (finishes, after) := settleMany r made b
    (finishes, { after with events := b.events })

def append (b : Bench) (h : Hook (Callback Nat)) : Bench :=
  { b with lifecycle := b.lifecycle.append h }.report (b.lifecycle.appendEvents h)

def register (b : Bench) (key : String) (limit : Duration) (place : Nat) : Bench :=
  b.append (shutdownHook b.signal key limit place)

def bind (b : Bench) (key : String) (r : Resolved Nat) : Bool × Bench :=
  match bindingHook? b.signal key r with
  | some hook => (true, b.append hook)
  | none => (false, b)

def shutdown (b : Bench) (limit : Duration) (p : Option Nat) : Except ShutdownError Unit × Bench :=
  let (result, recorder) := shutdownProvider Recorder.shutdown b.signal limit p b.recorder
  (result, { b with recorder })

def call (b : Bench) (verb : Lifecycle.Verb) : Option (Except Lifecycle.Error Unit) × Bench :=
  let (result, course) := Lifecycle.runAlone b.timeouts (Callback.exec Recorder.shutdown) verb
    { lifecycle := b.lifecycle, surroundings := b.recorder, events := b.events }
  (result, { b with
    lifecycle := course.lifecycle, recorder := course.surroundings, events := course.events })

end Bench

end Telemetry.Testing
