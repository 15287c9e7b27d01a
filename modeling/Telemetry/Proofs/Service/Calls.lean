import Mathlib
import Telemetry.Service

namespace Telemetry

/-- No id is zero and no two spans have the same one, as far as the first `n` are concerned. -/
structure IdSource.Fresh (ids : IdSource) (n : Nat) : Prop where
  trace_ne_zero : ∀ i < n, ids.trace i ≠ 0
  span_ne_zero : ∀ i < n, ids.span i ≠ 0
  span_ne : ∀ i < n, ∀ j < n, ids.span i = ids.span j → i = j

/-- Where the context comes from that a call is given: from nowhere, from outside, from where the
program runs, or from a span by its number in the order of the starts. -/
inductive Given where
  | root
  | outside (s : SpanContext)
  | current
  | of (n : Nat)

structure Plan (ε α : Type) where
  service : Service
  operation : String
  ending : Ending ε α

/-- The calls that a closure makes, with those of the closures in it. A guard may be held across the
ends of closures. So may a future that waits: it holds a guard, too, and makes calls of its own
whenever it is polled. -/
inductive Calls (ε α : Type) where
  | done
  | trace (given : Given) (plan : Plan ε α) (rest : Calls ε α)
  | conclude (place : Nat) (rest : Calls ε α)
  /-- Makes calls while a given context is the current one, as the poll of a future does. -/
  | poll (given : Given) (nested rest : Calls ε α)
  /-- Runs a closure in a span, or a future in a span that is the current one meanwhile. -/
  | within (isFuture : Bool) (given : Given) (plan : Plan ε α) (nested rest : Calls ε α)

structure Started (ε α : Type) where
  plan : Plan ε α
  given : Option SpanContext
  context : SpanContext

namespace Started

variable {ε α : Type}

/-- The span that a call starts after `n` others. It belongs to the trace of a valid parent. -/
def next (ids : IdSource) (sampler : Sampler) (n : Nat) (plan : Plan ε α)
    (given : Option SpanContext) : Started ε α :=
  let traceId := ((given.filter (·.isValid)).map (·.traceId)).getD (ids.trace n)
  { plan, given
    context :=
      { traceId
        spanId := ids.span n
        flags := if sampler.samples given traceId then 1 else 0
        state := (given.map (·.state)).getD {} } }

def blank (s : Started ε α) : SpanRecord :=
  { context := s.context
    name := s.plan.service.component ++ "." ++ s.plan.operation
    parent := s.given.filter (·.isValid) }

/-- What is recorded of a span in the end. Only a failure that was returned is noted. -/
def record (text : ε → String) (s : Started ε α) : SpanRecord :=
  match s.plan.ending with
  | .returned (.error e) =>
    { s.blank with
      status := .error (text e)
      events := [{ name := "exception", attributes := [("exception.message", text e)] }] }
  | _ => s.blank

end Started

variable {ε α : Type}

def Given.context (g : Given) (here : Option SpanContext) (started : List (Started ε α)) :
    Option SpanContext :=
  match g with
  | .root => none
  | .outside s => some s
  | .current => here
  | .of n => started[n]?.map (·.context)

namespace Calls

def size : Calls ε α → Nat
  | done => 0
  | trace _ _ rest => size rest + 1
  | conclude _ rest => size rest
  | poll _ nested rest => size nested + size rest
  | within _ _ _ nested rest => size nested + size rest + 1

def spans (ids : IdSource) (sampler : Sampler) :
    Calls ε α → Option SpanContext → List (Started ε α) → List (Started ε α)
  | done, _, before => before
  | trace g plan rest, here, before =>
    let s := Started.next ids sampler before.length plan (g.context here before)
    rest.spans ids sampler here (before ++ [s])
  | conclude _ rest, here, before => rest.spans ids sampler here before
  | poll g nested rest, here, before =>
    rest.spans ids sampler here (nested.spans ids sampler (g.context here before) before)
  | within isFuture g plan nested rest, here, before =>
    let s := Started.next ids sampler before.length plan (g.context here before)
    let inner := if isFuture then some s.context else here
    rest.spans ids sampler here (nested.spans ids sampler inner (before ++ [s]))

def answers : Calls ε α → List (Ending ε α)
  | done => []
  | trace _ _ rest => answers rest
  | conclude _ rest => answers rest
  | poll _ nested rest => answers nested ++ answers rest
  | within _ _ plan nested rest => answers nested ++ plan.ending :: answers rest

/-- Whether the calls only run closures, and futures as a whole. -/
def isNested : Calls ε α → Bool
  | done => true
  | within _ _ _ nested rest => isNested nested && isNested rest
  | trace .. | conclude .. | poll .. => false

/-- The numbers of the spans of nested closures in post-order, from a number on. -/
def ends : Calls ε α → Nat → List Nat
  | within _ _ _ nested rest, n =>
    ends nested (n + 1) ++ n :: ends rest (n + 1 + nested.size)
  | _, _ => []

end Calls

structure Progress (ε α : Type) where
  started : List (Started ε α) := []
  guards : List (Started ε α) := []
  answers : List (Ending ε α) := []

abbrev Running (ε α : Type) := StateT Tracer (StateM (Progress ε α))

namespace Progress

def start (s : Started ε α) (p : Progress ε α) : Progress ε α :=
  { p with started := p.started ++ [s] }

def hold (s : Started ε α) (p : Progress ε α) : Progress ε α :=
  { p with guards := p.guards ++ [s] }

def release (place : Nat) (p : Progress ε α) : Progress ε α :=
  { p with guards := p.guards.eraseIdx place }

def answer (ending : Ending ε α) (p : Progress ε α) : Progress ε α :=
  { p with answers := p.answers ++ [ending] }

variable {s : Started ε α} {ending : Ending ε α} {p : Progress ε α}

@[simp]
theorem started_start : (p.start s).started = p.started ++ [s] := rfl

theorem release_of_none {place : Nat} (h : p.guards[place]? = none) : p.release place = p := by
  unfold release
  rw [List.eraseIdx_of_length_le (List.getElem?_eq_none_iff.mp h)]

@[simp]
theorem started_answer : (p.answer ending).started = p.started := rfl

end Progress

namespace Running

def given (g : Given) : Running ε α (Option SpanContext) := do
  return g.context (← getThe Tracer).current (← getThe (Progress ε α)).started

def setCurrent (context : Option SpanContext) : Running ε α Unit :=
  modifyThe Tracer ({ · with current := context })

end Running

namespace Calls

open Running

variable (text : ε → String)

def run : Calls ε α → Running ε α Unit
  | done => pure ()
  | trace g plan rest => do
    let parent ← given g
    let span ← modifyGetThe Tracer (plan.service.trace parent plan.operation)
    modifyThe (Progress ε α) fun p ↦ (p.start ⟨plan, parent, span⟩).hold ⟨plan, parent, span⟩
    run rest
  | conclude place rest => do
    let held ← modifyGetThe (Progress ε α) fun p ↦ (p.guards[place]?, p.release place)
    modifyThe Tracer fun t ↦ held.elim t fun s ↦ Service.conclude text s.context s.plan.ending t
    run rest
  | poll g nested rest => do
    let outer := (← getThe Tracer).current
    setCurrent (← given g)
    run nested
    setCurrent outer
    run rest
  | within isFuture g plan nested rest => do
    let parent ← given g
    let body (span : SpanContext) : Running ε α (Ending ε α) := do
      modifyThe (Progress ε α) (·.start ⟨plan, parent, span⟩)
      run nested
      return plan.ending
    let ending ←
      if isFuture then plan.service.withCurrentSpan text parent plan.operation body
      else plan.service.withSpan text parent plan.operation body
    modifyThe (Progress ε α) (·.answer ending)
    run rest

def leave : Running ε α Unit := do
  let guards := (← getThe (Progress ε α)).guards
  modifyThe (Progress ε α) ({ · with guards := [] })
  for s in guards do
    modifyThe Tracer (Service.conclude text s.context s.plan.ending)

def execute (calls : Calls ε α) (t : Tracer) : Tracer × Progress ε α :=
  let ((_, t), p) := ((do run text calls; leave text : Running ε α Unit).run t).run {}
  (t, p)

end Calls

end Telemetry
