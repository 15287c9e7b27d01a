import Mathlib
import Telemetry.Lifecycle.Call

namespace Telemetry.Lifecycle

variable {κ : Type}

def numbered (n : Nat) (h : Hook κ) : Hook (Nat × κ) :=
  { name := h.name, onStart := h.onStart.map (n, ·), onStop := h.onStop.map (n, ·) }

namespace Call

def active : Call κ → Bool
  | enter _ | done _ => false
  | _ => true

def closing : Call κ → Bool
  | drain none | unwind .. | stopping .. | close .. => true
  | _ => false

end Call

structure Slot (κ : Type) where
  verb : Verb
  call : Call (Nat × κ)
  job : Option Nat := none
  dropped : Bool := false

inductive Note where
  | invoked (verb : Verb) (n : Nat)
  /-- The callback of a hook came back, or it was given up. -/
  | returned (verb : Verb) (n : Nat) (result : Except HookError Unit)
  | passed (i : Nat)

inductive Move (κ : Type) where
  | append (h : Hook κ)
  | make (verb : Verb)
  | turn (i : Nat)
  | finish (i : Nat) (result : Except HookError Unit)
  /-- A call that waits for a callback is given up. -/
  | drop (i : Nat)

/-- A lifecycle with all calls that have been made, and what has happened, latest first. -/
structure Scene (κ : Type) where
  lifecycle : Lifecycle (Nat × κ) := {}
  slots : List (Slot κ) := []
  accepted : List (Hook κ) := []
  taken : Nat := 0
  log : List Note := []

namespace Scene

def passing (i : Nat) : Call (Nat × κ) → Call (Nat × κ) → List Note
  | .enter .stop, .drain _ => [.passed i]
  | _, _ => []

def turn (s : Scene κ) (i : Nat) (slot : Slot κ) : Scene κ :=
  match slot.call.turn s.lifecycle with
  | .step next l _ =>
    { s with
      lifecycle := l
      slots := s.slots.set i { slot with call := next }
      taken := s.taken + (s.lifecycle.hooks.length - l.hooks.length)
      log := passing i slot.call next ++ s.log }
  | .invoke next l _ verb callback =>
    { s with
      lifecycle := l
      slots := s.slots.set i { slot with call := next, job := some callback.1 }
      log := .invoked verb callback.1 :: s.log }
  | .waiting | .finished _ => s

def finish (s : Scene κ) (i : Nat) (slot : Slot κ) (result : Except HookError Unit) : Scene κ :=
  match slot.call.awaited, slot.job with
  | some verb, some n =>
    { s with
      slots := s.slots.set i { slot with call := (slot.call.resume result).1, job := none }
      log := .returned verb n result :: s.log }
  | _, _ => s

/-- What a move makes of a scene. A move that cannot be made changes nothing. -/
def act (s : Scene κ) : Move κ → Scene κ
  | .append h =>
    let g := numbered s.accepted.length h
    { s with
      lifecycle := s.lifecycle.append g
      accepted := if s.lifecycle.accepts g then s.accepted ++ [h] else s.accepted }
  | .make verb => { s with slots := s.slots ++ [{ verb, call := .enter verb }] }
  | .turn i => match s.slots[i]? with
    | some slot => if slot.dropped then s else s.turn i slot
    | none => s
  | .finish i result => match s.slots[i]? with
    | some slot => if slot.dropped then s else s.finish i slot result
    | none => s
  | .drop i => match s.slots[i]? with
    | some slot =>
      if slot.call.awaited.isSome then
        { s with slots := s.slots.set i { slot with dropped := true } }
      else s
    | none => s

def run (ms : List (Move κ)) : Scene κ := ms.foldl act {}

@[simp] theorem run_nil : run ([] : List (Move κ)) = {} := rfl

@[simp] theorem run_concat (ms : List (Move κ)) (m : Move κ) :
    run (ms ++ [m]) = (run ms).act m := by
  simp [run]

/-- A call under way that does not wait for a callback is the next to do something, as on a single
thread. -/
def Cooperative (ms : List (Move κ)) : Prop :=
  ∀ before m after, ms = before ++ m :: after → ∀ (i : Nat) (slot : Slot κ),
    (run before).slots[i]? = some slot → slot.call.active → slot.call.awaited = none → m = .turn i

theorem slots_act {s : Scene κ} {i : Nat} {slot : Slot κ} {m : Move κ}
    (hi : s.slots[i]? = some slot) (ht : m ≠ .turn i) (hf : ∀ result, m ≠ .finish i result)
    (hd : m ≠ .drop i) : (s.act m).slots[i]? = some slot := by
  cases m with
  | append h => exact hi
  | make verb =>
    simp only [act]
    rw [List.getElem?_append_left (List.getElem?_eq_some_iff.mp hi).1]
    exact hi
  | turn j =>
    have hij : j ≠ i := fun he ↦ ht (he ▸ rfl)
    simp only [act]
    split
    · split
      · exact hi
      · simp only [turn]
        split <;> simp only [List.getElem?_set_ne hij, hi]
    · exact hi
  | finish j result =>
    have hij : j ≠ i := fun he ↦ hf result (he ▸ rfl)
    simp only [act]
    split
    · split
      · exact hi
      · simp only [finish]
        split <;> simp only [List.getElem?_set_ne hij, hi]
    · exact hi
  | drop j =>
    have hij : j ≠ i := fun he ↦ hd (he ▸ rfl)
    simp only [act]
    split
    · split <;> simp only [List.getElem?_set_ne hij, hi]
    · exact hi

inductive Step (s : Scene κ) : Move κ → Scene κ → Prop
  | take {h : Hook κ} (hs : s.lifecycle.state = .idle ∨ s.lifecycle.state = .starting) :
      Step s (.append h) { s with
        lifecycle := { s.lifecycle with
          hooks := s.lifecycle.hooks ++ [numbered s.accepted.length h] }
        accepted := s.accepted ++ [h] }
  | join {h : Hook κ} (hs : s.lifecycle.state = .running) (hh : h.onStart = none) :
      Step s (.append h) { s with
        lifecycle := { s.lifecycle with
          hooks := s.lifecycle.hooks ++ [numbered s.accepted.length h]
          started := s.lifecycle.hooks.length + 1 }
        accepted := s.accepted ++ [h] }
  | make {verb : Verb} :
      Step s (.make verb) { s with slots := s.slots ++ [{ verb, call := .enter verb }] }
  | start {i : Nat} {verb : Verb} {job : Option Nat}
      (hi : s.slots[i]? = some ⟨verb, .enter .start, job, false⟩) (hs : s.lifecycle.state = .idle) :
      Step s (.turn i) { s with
        lifecycle := { s.lifecycle with state := .starting }
        slots := s.slots.set i ⟨verb, .seek, job, false⟩ }
  | refuse {i : Nat} {verb : Verb} {entered : Verb} {job : Option Nat} {e : Error}
      (hi : s.slots[i]? = some ⟨verb, .enter entered, job, false⟩)
      (he : entered = .start ∧ e = .alreadyStarted ∧ s.lifecycle.state ≠ .idle ∨
        entered = .stop ∧ e = .notRunning s.lifecycle.state ∧ s.lifecycle.state ≠ .running) :
      Step s (.turn i) { s with slots := s.slots.set i ⟨verb, .done (.error e), job, false⟩ }
  | pass {i : Nat} {verb : Verb} {job : Option Nat}
      (hi : s.slots[i]? = some ⟨verb, .enter .stop, job, false⟩)
      (hs : s.lifecycle.state = .running) :
      Step s (.turn i) { s with
        slots := s.slots.set i ⟨verb, .drain none, job, false⟩
        log := .passed i :: s.log }
  | reach {i : Nat} {verb : Verb} {job : Option Nat}
      (hi : s.slots[i]? = some ⟨verb, .seek, job, false⟩)
      (hg : s.lifecycle.hooks.length ≤ s.lifecycle.started) :
      Step s (.turn i) { s with slots := s.slots.set i ⟨verb, .settle, job, false⟩ }
  | skip {i : Nat} {verb : Verb} {job : Option Nat} {g : Hook (Nat × κ)}
      (hi : s.slots[i]? = some ⟨verb, .seek, job, false⟩)
      (hg : s.lifecycle.hooks[s.lifecycle.started]? = some g) (hn : g.onStart = none) :
      Step s (.turn i) { s with slots := s.slots.set i ⟨verb, .count, job, false⟩ }
  | invoke {i n : Nat} {verb : Verb} {job : Option Nat} {g : Hook (Nat × κ)} {callback : κ}
      (hi : s.slots[i]? = some ⟨verb, .seek, job, false⟩)
      (hg : s.lifecycle.hooks[s.lifecycle.started]? = some g)
      (hn : g.onStart = some (n, callback)) :
      Step s (.turn i) { s with
        lifecycle := { s.lifecycle with
          hooks := s.lifecycle.hooks.set s.lifecycle.started { g with onStart := none } }
        slots := s.slots.set i ⟨verb, .starting g.name, some n, false⟩
        log := .invoked .start n :: s.log }
  | count {i : Nat} {verb : Verb} {job : Option Nat}
      (hi : s.slots[i]? = some ⟨verb, .count, job, false⟩) :
      Step s (.turn i) { s with
        lifecycle := s.lifecycle.countStarted
        slots := s.slots.set i ⟨verb, .seek, job, false⟩ }
  | settle {i : Nat} {verb : Verb} {job : Option Nat}
      (hi : s.slots[i]? = some ⟨verb, .settle, job, false⟩) :
      Step s (.turn i) { s with
        lifecycle := s.lifecycle.settle
        slots := s.slots.set i ⟨verb, .done (.ok ()), job, false⟩ }
  | drain {i : Nat} {verb : Verb} {job : Option Nat} {cause : Option Failure}
      (hi : s.slots[i]? = some ⟨verb, .drain cause, job, false⟩) :
      Step s (.turn i) { s with
        lifecycle := s.lifecycle.drain.2
        slots := s.slots.set i ⟨verb, .unwind cause s.lifecycle.drain.1 [], job, false⟩
        taken := s.taken + min s.lifecycle.started s.lifecycle.hooks.length }
  | pop {i : Nat} {verb : Verb} {job : Option Nat} {cause : Option Failure} {name : String}
      {rest : List (String × Option (Nat × κ))} {failures : List Failure}
      (hi : s.slots[i]? = some ⟨verb, .unwind cause ((name, none) :: rest) failures, job, false⟩) :
      Step s (.turn i) { s with
        slots := s.slots.set i ⟨verb, .unwind cause rest failures, job, false⟩ }
  | stop {i n : Nat} {verb : Verb} {job : Option Nat} {cause : Option Failure} {name : String}
      {callback : κ} {rest : List (String × Option (Nat × κ))} {failures : List Failure}
      (hi : s.slots[i]? = some
        ⟨verb, .unwind cause ((name, some (n, callback)) :: rest) failures, job, false⟩) :
      Step s (.turn i) { s with
        slots := s.slots.set i ⟨verb, .stopping cause name rest failures, some n, false⟩
        log := .invoked .stop n :: s.log }
  | empty {i : Nat} {verb : Verb} {job : Option Nat} {cause : Option Failure}
      {failures : List Failure}
      (hi : s.slots[i]? = some ⟨verb, .unwind cause [] failures, job, false⟩) :
      Step s (.turn i) { s with
        slots := s.slots.set i ⟨verb, .close cause failures, job, false⟩ }
  | close {i : Nat} {verb : Verb} {job : Option Nat} {cause : Option Failure}
      {failures : List Failure}
      (hi : s.slots[i]? = some ⟨verb, .close cause failures, job, false⟩) :
      Step s (.turn i) { s with
        lifecycle := s.lifecycle.close
        slots := s.slots.set i ⟨verb, .done (Call.verdict cause failures), job, false⟩ }
  | begun {i n : Nat} {verb : Verb} {name : String}
      (hi : s.slots[i]? = some ⟨verb, .starting name, some n, false⟩) :
      Step s (.finish i (.ok ())) { s with
        slots := s.slots.set i ⟨verb, .count, none, false⟩
        log := .returned .start n (.ok ()) :: s.log }
  | failed {i n : Nat} {verb : Verb} {name : String} {e : HookError}
      (hi : s.slots[i]? = some ⟨verb, .starting name, some n, false⟩) :
      Step s (.finish i (.error e)) { s with
        slots := s.slots.set i ⟨verb, .drain (some ⟨name, e⟩), none, false⟩
        log := .returned .start n (.error e) :: s.log }
  | ended {i n : Nat} {verb : Verb} {cause : Option Failure} {name : String}
      {rest : List (String × Option (Nat × κ))} {failures failures' : List Failure}
      {result : Except HookError Unit}
      (hi : s.slots[i]? = some ⟨verb, .stopping cause name rest failures, some n, false⟩)
      (hf : ((Call.stopping cause name rest failures).resume result).1 =
        .unwind cause rest failures') :
      Step s (.finish i result) { s with
        slots := s.slots.set i ⟨verb, .unwind cause rest failures', none, false⟩
        log := .returned .stop n result :: s.log }
  | drop {i : Nat} {slot : Slot κ} (hi : s.slots[i]? = some slot)
      (hw : slot.call.awaited.isSome) :
      Step s (.drop i) { s with slots := s.slots.set i { slot with dropped := true } }

theorem append_cases (s : Scene κ) (h : Hook κ) :
    s.act (.append h) = s ∨ Step s (.append h) (s.act (.append h)) := by
  have taken_in (hs : s.lifecycle.state = .idle ∨ s.lifecycle.state = .starting) :
      Step s (.append h) (s.act (.append h)) := by
    have he : s.act (.append h) = { s with
        lifecycle := { s.lifecycle with
          hooks := s.lifecycle.hooks ++ [numbered s.accepted.length h] }
        accepted := s.accepted ++ [h] } := by
      obtain hs | hs := hs <;> simp [act, append, accepts, hs]
    rw [he]
    exact .take hs
  cases hs : s.lifecycle.state with
  | idle => exact .inr (taken_in (.inl hs))
  | starting => exact .inr (taken_in (.inr hs))
  | running =>
    cases hh : h.onStart with
    | none =>
      have he : s.act (.append h) = { s with
          lifecycle := { s.lifecycle with
            hooks := s.lifecycle.hooks ++ [numbered s.accepted.length h]
            started := s.lifecycle.hooks.length + 1 }
          accepted := s.accepted ++ [h] } := by
        simp [act, append, accepts, numbered, hs, hh]
      rw [he]
      exact .inr (.join hs hh)
    | some callback => simp [act, append, accepts, numbered, hs, hh]
  | stopping => simp [act, append, accepts, hs]
  | stopped => simp [act, append, accepts, hs]

theorem turn_cases (s : Scene κ) (i : Nat) :
    s.act (.turn i) = s ∨ Step s (.turn i) (s.act (.turn i)) := by
  cases hi : s.slots[i]? with
  | none => simp [act, hi]
  | some slot =>
    obtain ⟨verb, call, job, dropped⟩ := slot
    cases dropped with
    | true => simp [act, hi]
    | false =>
      cases call with
      | enter entered =>
        cases entered with
        | start =>
          by_cases hs : s.lifecycle.state = .idle
          · have step : Step s (.turn i) _ := .start hi hs
            simpa [act, turn, Call.turn, enterStart, passing, hi, hs] using .inr step
          · have step : Step s (.turn i) _ := .refuse hi (.inl ⟨rfl, rfl, hs⟩)
            simpa [act, turn, Call.turn, enterStart, passing, hi, hs] using .inr step
        | stop =>
          by_cases hs : s.lifecycle.state = .running
          · have step : Step s (.turn i) _ := .pass hi hs
            simpa [act, turn, Call.turn, enterStop, passing, hi, hs] using .inr step
          · have step : Step s (.turn i) _ := .refuse hi (.inr ⟨rfl, rfl, hs⟩)
            simpa [act, turn, Call.turn, enterStop, passing, hi, hs] using .inr step
      | seek =>
        cases hg : s.lifecycle.hooks[s.lifecycle.started]? with
        | none =>
          have step : Step s (.turn i) _ := .reach hi (List.getElem?_eq_none_iff.mp hg)
          simpa [act, turn, Call.turn, takeStart, passing, hi, hg] using .inr step
        | some g =>
          cases hn : g.onStart with
          | none =>
            have same : s.lifecycle.hooks.set s.lifecycle.started { g with onStart := none } =
                s.lifecycle.hooks := by
              obtain ⟨hlt, rfl⟩ := List.getElem?_eq_some_iff.mp hg
              rw [← hn, List.set_getElem_self]
            have step : Step s (.turn i) _ := .skip hi hg hn
            simpa [act, turn, Call.turn, takeStart, passing, hi, hg, hn, same] using .inr step
          | some callback =>
            have step : Step s (.turn i) _ := .invoke hi hg hn
            simpa [act, turn, Call.turn, takeStart, hi, hg, hn] using .inr step
      | starting name => simp [act, turn, Call.turn, hi]
      | count =>
        have step : Step s (.turn i) _ := .count hi
        simpa [act, turn, Call.turn, passing, countStarted, hi] using .inr step
      | settle =>
        have step : Step s (.turn i) _ := .settle hi
        simpa [act, turn, Call.turn, passing, Lifecycle.settle, hi] using .inr step
      | drain cause =>
        have gone : s.lifecycle.hooks.length - s.lifecycle.drain.2.hooks.length =
            min s.lifecycle.started s.lifecycle.hooks.length := by
          simp only [Lifecycle.drain, List.length_drop]
          omega
        have step : Step s (.turn i) _ := .drain hi
        rw [← gone] at step
        simpa only [act, turn, Call.turn, passing, hi] using .inr step
      | unwind cause rest failures =>
        cases rest with
        | nil =>
          have step : Step s (.turn i) _ := .empty hi
          simpa [act, turn, Call.turn, passing, hi] using .inr step
        | cons e rest =>
          obtain ⟨name, callback⟩ := e
          cases callback with
          | none =>
            have step : Step s (.turn i) _ := .pop hi
            simpa [act, turn, Call.turn, passing, hi] using .inr step
          | some callback =>
            have step : Step s (.turn i) _ := .stop hi
            simpa [act, turn, Call.turn, hi] using .inr step
      | stopping cause name rest failures => simp [act, turn, Call.turn, hi]
      | close cause failures =>
        have step : Step s (.turn i) _ := .close hi
        simpa [act, turn, Call.turn, passing, Lifecycle.close, hi] using .inr step
      | done result => simp [act, turn, Call.turn, hi]

theorem finish_cases (s : Scene κ) (i : Nat) (result : Except HookError Unit) :
    s.act (.finish i result) = s ∨ Step s (.finish i result) (s.act (.finish i result)) := by
  cases hi : s.slots[i]? with
  | none => simp [act, hi]
  | some slot =>
    obtain ⟨verb, call, job, dropped⟩ := slot
    cases dropped with
    | true => simp [act, hi]
    | false =>
      cases job with
      | none => simp [act, finish, hi]
      | some n =>
        cases call with
        | starting name =>
          cases result with
          | ok =>
            have step : Step s (.finish i (.ok ())) _ := .begun hi
            simpa [act, finish, Call.awaited, Call.resume, hi] using .inr step
          | error e =>
            have step : Step s (.finish i (.error e)) _ := .failed hi
            simpa [act, finish, Call.awaited, Call.resume, hi] using .inr step
        | stopping cause name rest failures =>
          cases result with
          | ok =>
            have step : Step s (.finish i (.ok ())) _ := .ended hi rfl
            simpa [act, finish, Call.awaited, Call.resume, hi] using .inr step
          | error e =>
            have step : Step s (.finish i (.error e)) _ := .ended hi rfl
            simpa [act, finish, Call.awaited, Call.resume, hi] using .inr step
        | _ => simp [act, finish, Call.awaited, hi]

theorem act_cases (s : Scene κ) (m : Move κ) : s.act m = s ∨ Step s m (s.act m) := by
  cases m with
  | append h => exact append_cases s h
  | make verb => exact .inr .make
  | turn i => exact turn_cases s i
  | finish i result => exact finish_cases s i result
  | drop i =>
    cases hi : s.slots[i]? with
    | none => simp [act, hi]
    | some slot =>
      by_cases hw : slot.call.awaited.isSome
      · have step : Step s (.drop i) _ := .drop hi hw
        simpa [act, hi, hw] using .inr step
      · simp [act, hi, hw]

theorem run_induction {P : Scene κ → Prop} (ms : List (Move κ)) (start : P {})
    (step : ∀ before m s', before ++ [m] <+: ms → P (run before) → Step (run before) m s' → P s') :
    P (run ms) := by
  have all (first : List (Move κ)) : first <+: ms → P (run first) := by
    induction first using List.reverseRecOn with
    | nil => exact fun _ ↦ start
    | append_singleton first m ih =>
      intro hp
      have hbefore := ih ((List.prefix_append first [m]).trans hp)
      rw [run_concat]
      rcases (run first).act_cases m with he | hst
      · rw [he]
        exact hbefore
      · exact step first m _ hp hbefore hst
  exact all ms (List.prefix_refl ms)

end Scene

end Telemetry.Lifecycle
