import Telemetry.Export.Pipeline
import Telemetry.Trace.Propagation

namespace Telemetry

structure Caches where
  traces : ProviderCache Nat := {}
  metrics : ProviderCache Nat := {}
  logs : ProviderCache Nat := {}

namespace Caches

def get (c : Caches) : Signal → ProviderCache Nat
  | .traces => c.traces
  | .metrics => c.metrics
  | .logs => c.logs

def set (c : Caches) (k : Signal) (cache : ProviderCache Nat) : Caches :=
  match k with
  | .traces => { c with traces := cache }
  | .metrics => { c with metrics := cache }
  | .logs => { c with logs := cache }

end Caches

/-- The defaults of a process. The last one to set them wins. -/
structure Ambient where
  tracer : Option Nat := none
  meter : Option Nat := none
  logger : Option Nat := none
  propagator : Propagator := .none

/-- What a lookup does after it has its answer and before it returns. -/
inductive Chore where
  | install (provider : Nat)
  | announce

/-- What is to do with an answer, in order. Only a new provider is worth it. -/
def Resolved.chores (r : Resolved Nat) : List Chore :=
  if r.isNew then r.provider.toList.map .install ++ [.announce] else []

namespace Ambient

def set (a : Ambient) (k : Signal) (provider : Nat) : Ambient :=
  match k with
  | .traces => { a with tracer := some provider }
  | .metrics => { a with meter := some provider }
  | .logs => { a with logger := some provider }

def after (a : Ambient) (k : Signal) : Chore → Ambient
  | .install provider => a.set k provider
  | .announce => a

def replaceLogger (a : Ambient) (provider : Nat) : Option Nat × Ambient :=
  (a.logger, a.set .logs provider)

end Ambient

structure Registry where
  ids : IdSource
  pipelines : List Pipeline := []
  caches : Caches := {}
  ambient : Ambient := {}
  lifecycle : Lifecycle (Callback Nat) := {}
  timeouts : Lifecycle.Timeouts := {}
  events : List Event := []

namespace Registry

open ProviderCache (Request)

def report (reg : Registry) (events : List Event) : Registry :=
  { reg with events := reg.events ++ events }

def add (reg : Registry) (pipeline : Pipeline) : Nat × Registry :=
  (reg.pipelines.length, { reg with pipelines := reg.pipelines ++ [pipeline] })

def build (reg : Registry) (resource : Resource) (c : ExporterConfig) (k : Signal) :
    Except SetupError (Option Nat) × Registry :=
  let (made, events) := (Pipeline.build reg.ids resource c k).run reg.events
  let reg := { reg with events }
  match made with
  | .error e => (.error e, reg)
  | .ok none => (.ok none, reg)
  | .ok (some pipeline) =>
    let (place, reg) := reg.add pipeline
    (.ok (some place), reg)

def shutdownIn (_ : Signal) (place : Nat) (ps : List Pipeline) : Attempt × List Pipeline :=
  match ps[place]? with
  | none => ({}, ps)
  | some pipeline =>
    let (attempt, pipeline) := pipeline.shutdown
    (attempt, ps.set place pipeline)

def shutdown (reg : Registry) (k : Signal) (place : Nat) : Attempt × Registry :=
  let (attempt, pipelines) := shutdownIn k place reg.pipelines
  (attempt, { reg with pipelines })

def created (c : ExporterConfig) (k : Signal) : Event :=
  .named "provider_created" .info "telemetry provider created"
    [("signal", k.name), ("service", c.serviceName), ("endpoint", c.endpoint)]

/-- A configuration with an endpoint does not take the note that export is off for an answer. -/
def request (c : ExporterConfig) : Request := ⟨c.serviceName, !c.isDisabled⟩

/-- What the second step of a lookup reports, and the end of a candidate that is not wanted. -/
def conclude (c : ExporterConfig) (k : Signal) (s : ProviderCache.Settled Nat) (reg : Registry) :
    Registry :=
  let reg := reg.report (s.events k (request c))
  match s.discarded with
  | some place => (reg.shutdown k place).2
  | none => reg

def attend (c : ExporterConfig) (k : Signal) (reg : Registry) (chore : Chore) : Registry :=
  let reg := { reg with ambient := reg.ambient.after k chore }
  match chore with
  | .install _ => reg
  | .announce => reg.report [created c k]

def resolve (reg : Registry) (cache : ProviderCache Nat) (resource : Resource) (c : ExporterConfig)
    (k : Signal) : Except SetupError (Resolved Nat) × ProviderCache Nat × Registry :=
  let finish (found : Resolved Nat) (cache : ProviderCache Nat) (reg : Registry) :=
    (.ok found, cache, found.chores.foldl (attend c k) reg)
  match cache.hit? (request c) with
  | some found => finish found cache reg
  | none =>
    match reg.build resource c k with
    | (.error e, reg) => (.error e, cache, reg)
    | (.ok candidate, reg) =>
      let s := cache.settle (request c) candidate
      finish s.resolved s.cache (reg.conclude c k s)

def provider (reg : Registry) (resource : Resource) (c : ExporterConfig) (k : Signal) :
    Except SetupError (Resolved Nat) × Registry :=
  let (found, cache, reg) := reg.resolve (reg.caches.get k) resource c k
  (found, { reg with caches := reg.caches.set k cache })

def clear (reg : Registry) (k : Signal) : Registry :=
  { reg with caches := reg.caches.set k (reg.caches.get k).clear }

/-- Registers the shutdown of a provider that a lookup made, and says whether it made one. -/
def bind (reg : Registry) (key : String) (k : Signal) (r : Resolved Nat) : Bool × Registry :=
  match bindingHook? k key r with
  | none => (false, reg)
  | some hook =>
    let lifecycle := reg.lifecycle.append hook
    (true, { reg with lifecycle }.report (reg.lifecycle.appendEvents hook))

def call (reg : Registry) (verb : Lifecycle.Verb) :
    Option (Except Lifecycle.Error Unit) × Registry :=
  let (result, course) := Lifecycle.runAlone reg.timeouts (Callback.exec shutdownIn) verb
    { lifecycle := reg.lifecycle, surroundings := reg.pipelines, events := reg.events }
  (result, { reg with
    lifecycle := course.lifecycle, pipelines := course.surroundings, events := course.events })

def tracer (reg : Registry) (provider : Option Nat) : Tracer :=
  match provider >>= (reg.pipelines[·]?) >>= Pipeline.tracer? with
  | some t => t
  | none => { ids := reg.ids, isShutDown := true }

def setTracer (reg : Registry) (provider : Option Nat) (t : Tracer) : Registry :=
  match provider with
  | some place => { reg with pipelines := reg.pipelines.modify place (·.withTracer t) }
  | none => reg

end Registry

end Telemetry
