import Telemetry.Lifecycle.Call

namespace Telemetry.Lifecycle

inductive Action where
  | note (entry : String)
  | observe (label : String)
  | register (name : String) (onStart onStop : Option (List Action))
  | call (label : String) (verb : Verb)
  | sleep (span : Duration)
  | hang
  | finish (result : Except HookError Unit)

abbrev Script := List Action

inductive Entry where
  | note (text : String)
  | observed (label : String) (state : State) (size : Nat)
  | called (label : String) (verb : Verb) (result : Except Error Unit)

/-- One level of a running call: the call itself, with the moment its callback is given up, or a
callback, with the moment it goes on. -/
inductive Frame where
  | call (c : Call Script) (deadline : Option Nat)
  | script (rest : Script) (wake : Option Nat)

inductive Ending where
  | returned (result : Except Error Unit)
  | cancelled

/-- A call made from outside: its frames, innermost first, and when it is given up. -/
structure Task where
  frames : List Frame
  cancelAt : Option Nat := none
  ending : Option Ending := none

structure World where
  lifecycle : Lifecycle Script := {}
  timeouts : Timeouts := {}
  now : Nat := 0
  journal : List Entry := []
  events : List Event := []

namespace World

def note (w : World) (e : Entry) : World := { w with journal := w.journal ++ [e] }

def report (w : World) (events : List Event) : World := { w with events := w.events ++ events }

def append (w : World) (h : Hook Script) : World :=
  { w with lifecycle := w.lifecycle.append h }.report (w.lifecycle.appendEvents h)

def deliver (w : World) (result : Except HookError Unit) :
    List Frame → Option (List Frame × World)
  | .call c _ :: outer =>
    let (c, events) := c.resume result
    some (.call c none :: outer, w.report events)
  | _ => none

def afterCall (w : World) (result : Except Error Unit) :
    List Frame → Option (List Frame × World)
  | .script (.call label verb :: rest) _ :: outer =>
    some (.script rest none :: outer, w.note (.called label verb result))
  | _ => none

def advance (w : World) : List Frame → Option (List Frame × World)
  | .script actions (some wake) :: outer =>
    if wake ≤ w.now then some (.script actions none :: outer, w) else none
  | .script (.note entry :: rest) none :: outer =>
    some (.script rest none :: outer, w.note (.note entry))
  | .script (.observe label :: rest) none :: outer =>
    some (.script rest none :: outer,
      w.note (.observed label w.lifecycle.state w.lifecycle.size))
  | .script (.register name onStart onStop :: rest) none :: outer =>
    some (.script rest none :: outer, w.append ⟨name, onStart, onStop⟩)
  | .script (.call label verb :: rest) none :: outer =>
    some (.call (.enter verb) none :: .script (.call label verb :: rest) none :: outer, w)
  | .script (.sleep span :: rest) none :: outer =>
    some (.script rest (some (w.now + span.nanos)) :: outer, w)
  | .script (.hang :: _) none :: _ => none
  | .script (.finish result :: _) none :: outer => w.deliver result outer
  | .script [] none :: outer => w.deliver (.ok ()) outer
  | .call c _ :: outer =>
    match c.turn w.lifecycle with
    | .step c lifecycle events =>
      some (.call c none :: outer, { w with lifecycle }.report events)
    | .invoke c lifecycle events verb callback =>
      some (.script callback none ::
        .call c (some (w.now + (w.timeouts.limit verb).nanos)) :: outer,
        { w with lifecycle }.report events)
    | .waiting => none
    | .finished result => w.afterCall result outer
  | [] => none

def expire (w : World) : List Frame → Option (List Frame × World)
  | [] => none
  | .call c deadline :: outer =>
    match c.awaited, deadline with
    | some verb, some d =>
      if d ≤ w.now then
        w.deliver (.error (.timedOut (w.timeouts.limit verb))) (.call c none :: outer)
      else w.expire outer
    | _, _ => w.expire outer
  | .script .. :: outer => w.expire outer

def result? : List Frame → Option (Except Error Unit)
  | [.call (.done result) _] => some result
  | _ => none

def stepTask (w : World) (t : Task) : Option (Task × World) :=
  if t.ending.isSome then none
  else match result? t.frames with
    | some result => some ({ t with ending := some (.returned result) }, w)
    | none =>
      match w.advance t.frames <|> w.expire t.frames with
      | some (frames, w) => some ({ t with frames }, w)
      | none =>
        if t.cancelAt.any (· ≤ w.now) then
          some ({ t with frames := [], ending := some .cancelled }, w)
        else none

def stepTasks (w : World) : List Task → Option (List Task × World)
  | [] => none
  | t :: ts =>
    match w.stepTask t with
    | some (t, w) => some (t :: ts, w)
    | none => (w.stepTasks ts).map fun (ts, w) ↦ (t :: ts, w)

def Frame.moments : Frame → List Nat
  | .call _ deadline => deadline.toList
  | .script _ wake => wake.toList

def Task.moments (t : Task) : List Nat :=
  if t.ending.isSome then [] else t.cancelAt.toList ++ t.frames.flatMap Frame.moments

def runWithin : Nat → World → List Task → List Task × World
  | 0, w, ts => (ts, w)
  | fuel + 1, w, ts =>
    match w.stepTasks ts with
    | some (ts, w) => runWithin fuel w ts
    | none => match (ts.flatMap Task.moments).min? with
      | some moment => runWithin fuel { w with now := max w.now moment } ts
      | none => (ts, w)

mutual

def weight : List Action → Nat
  | [] => 0
  | a :: rest => weightOne a + weight rest

def weightOne : Action → Nat
  | .register _ onStart onStop => 4 + weightOption onStart + weightOption onStop
  | _ => 1

def weightOption : Option (List Action) → Nat
  | none => 0
  | some script => weight script

end

def weightHook (h : Hook Script) : Nat := 4 + weightOption h.onStart + weightOption h.onStop

/-- Runs calls until all have ended. Every action of every hook is worth a few steps. -/
def run (w : World) (ts : List Task) : List Task × World :=
  let weight := w.lifecycle.hooks.foldl (fun n h ↦ n + weightHook h) 8
  runWithin (8 * weight * (ts.length + 1)) w ts

def call (w : World) (verb : Verb) (cancelAfter : Option Duration) : Option Ending × World :=
  let task : Task :=
    { frames := [.call (.enter verb) none]
      cancelAt := cancelAfter.map (w.now + ·.nanos) }
  let (ts, w) := w.run [task]
  (ts.head?.bind (·.ending), w)

/-- Makes two calls at once; the first one goes first whenever both can go on. -/
def both (w : World) (first second : Verb) : List (Option Ending) × World :=
  let task (verb : Verb) : Task := { frames := [.call (.enter verb) none] }
  let (ts, w) := w.run [task first, task second]
  (ts.map (·.ending), w)

def fresh (w : World) : World := { w with journal := [], events := [] }

end World

end Telemetry.Lifecycle
