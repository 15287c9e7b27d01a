import Telemetry.Lifecycle.Script

namespace Telemetry.Lifecycle

def refusal : Verb → State → Error
  | .start, _ => .alreadyStarted
  | .stop, state => .notRunning state

namespace World

def outcome : Nat → Script → Option (Except HookError Unit)
  | _, [] => some (.ok ())
  | left, .sleep span :: rest =>
    if span.nanos ≤ left then outcome (left - span.nanos) rest else none
  | _, .hang :: _ => none
  | _, .finish result :: _ => some result
  | left, _ :: rest => outcome left rest

def registered : Nat → Script → List (Hook Script)
  | left, .register name onStart onStop :: rest => ⟨name, onStart, onStop⟩ :: registered left rest
  | left, .sleep span :: rest =>
    if span.nanos ≤ left then registered (left - span.nanos) rest else []
  | _, .hang :: _ | _, .finish _ :: _ | _, [] => []
  | left, _ :: rest => registered left rest

def perform : World → Nat → Script → World
  | w, left, .note entry :: rest => perform (w.note (.note entry)) left rest
  | w, left, .observe label :: rest =>
    perform (w.note (.observed label w.lifecycle.state w.lifecycle.size)) left rest
  | w, left, .register name onStart onStop :: rest =>
    perform (w.append ⟨name, onStart, onStop⟩) left rest
  | w, left, .call label verb :: rest =>
    perform (w.note (.called label verb (.error (refusal verb w.lifecycle.state)))) left rest
  | w, left, .sleep span :: rest =>
    if span.nanos ≤ left then
      perform { w with now := w.now + span.nanos } (left - span.nanos) rest
    else { w with now := w.now + left }
  | w, left, .hang :: _ => { w with now := w.now + left }
  | w, _, .finish _ :: _ | w, _, [] => w

@[simp] theorem report_nil (w : World) : w.report [] = w := by
  simp [report]

@[simp] theorem perform_timeouts (script : Script) (left : Nat) (w : World) :
    (w.perform left script).timeouts = w.timeouts := by
  fun_induction perform w left script <;> simp_all [note, append, report]

theorem perform_lifecycle (script : Script) (left : Nat) (w : World) :
    (w.perform left script).lifecycle =
      (registered left script).foldl Lifecycle.append w.lifecycle := by
  fun_induction perform w left script with
  | case6 w left span rest h =>
    rw [registered, if_neg h]
    rfl
  | _ => simp_all [registered, note, World.append, report]

/-- The steps and jumps of a single call. -/
inductive Run : Nat → World → List Frame → World → List Frame → Prop
  | zero (w : World) (fs : List Frame) : Run 0 w fs w fs
  | step {n : Nat} {w w' w'' : World} {fs fs' fs'' : List Frame} (hr : result? fs = none)
      (h : (w.advance fs <|> w.expire fs) = some (fs', w')) (ht : Run n w' fs' w'' fs'') :
      Run (n + 1) w fs w'' fs''
  | jump {n moment : Nat} {w w' : World} {fs fs' : List Frame} (hr : result? fs = none)
      (h : (w.advance fs <|> w.expire fs) = none)
      (hm : (fs.flatMap Frame.moments).min? = some moment)
      (ht : Run n { w with now := max w.now moment } fs w' fs') : Run (n + 1) w fs w' fs'

namespace Run

variable {n m : Nat} {w w' w'' : World} {fs fs' fs'' : List Frame}

theorem one (hr : result? fs = none) (h : w.advance fs = some (fs', w')) : Run 1 w fs w' fs' :=
  .step hr (by rw [h]; rfl) (.zero w' fs')

theorem trans (h : Run n w fs w' fs') (h' : Run m w' fs' w'' fs'') :
    Run (n + m) w fs w'' fs'' := by
  induction h with
  | zero =>
    rw [Nat.zero_add]
    exact h'
  | step hr hs _ ih =>
    rw [Nat.add_right_comm]
    exact .step hr hs (ih h')
  | jump hr hs hm _ ih =>
    rw [Nat.add_right_comm]
    exact .jump hr hs hm (ih h')

theorem runWithin_eq (h : Run n w fs w' fs') (fuel : Nat) :
    runWithin (n + fuel) w [{ frames := fs }] = runWithin fuel w' [{ frames := fs' }] := by
  induction h with
  | zero => rw [Nat.zero_add]
  | step hr hs _ ih =>
    rw [Nat.add_right_comm, runWithin, ← ih]
    simp [stepTasks, stepTask, hr, hs]
  | jump hr hs hm _ ih =>
    rw [Nat.add_right_comm, runWithin, ← ih]
    simp [stepTasks, stepTask, hr, hs, Task.moments, hm]

theorem runWithin_ended (fuel : Nat) (w : World) (fs : List Frame) (ending : Ending) :
    runWithin fuel w [{ frames := fs, ending := some ending }] =
      ([{ frames := fs, ending := some ending }], w) := by
  cases fuel with
  | zero => rfl
  | succ fuel => simp [runWithin, stepTasks, stepTask, Task.moments]

theorem call_eq {verb : Verb} {result : Except Error Unit} {d : Option Nat}
    (h : Run n w [.call (.enter verb) none] w' [.call (.done result) d])
    (hn : n < 16 * w.lifecycle.hooks.foldl (fun n h ↦ n + weightHook h) 8) :
    w.call verb none = (some (.returned result), w') := by
  have hfuel : ∃ fuel, 8 * w.lifecycle.hooks.foldl (fun n h ↦ n + weightHook h) 8 * (1 + 1) =
      n + (fuel + 1) :=
    ⟨16 * w.lifecycle.hooks.foldl (fun n h ↦ n + weightHook h) 8 - n - 1, by omega⟩
  obtain ⟨fuel, hfuel⟩ := hfuel
  have ends : runWithin (fuel + 1) w' [{ frames := [.call (.done result) d] }] =
      ([{ frames := [.call (.done result) d], ending := some (.returned result) }], w') := by
    rw [runWithin]
    simp [stepTasks, stepTask, result?, runWithin_ended]
  have whole : w.run [{ frames := [.call (.enter verb) none] }] =
      ([{ frames := [.call (.done result) d], ending := some (.returned result) }], w') := by
    simp only [World.run, List.length_singleton, hfuel, h.runWithin_eq, ends]
  simp [call, whole]

end Run

theorem result?_inner (f g : Frame) (fs : List Frame) : result? (f :: g :: fs) = none := by
  cases f with
  | call c => cases c <;> rfl
  | script => rfl

theorem deliver_call (w : World) (result : Except HookError Unit) (c : Call Script)
    (deadline : Option Nat) : w.deliver result [.call c deadline] =
      some ([.call (c.resume result).1 none], w.report (c.resume result).2) := rfl

@[simp] theorem append_state (w : World) (h : Hook Script) :
    (w.append h).lifecycle.state = w.lifecycle.state := by
  simp only [append, report, Lifecycle.append]
  split <;> rfl

section Callback

variable {c : Call Script} {verb : Verb} {d : Nat} {w : World} {rest : Script}

theorem run_stuck {wake : Option Nat} (hc : c.awaited = some verb) {left : Nat}
    (hd : w.now + left = d)
    (hstuck : ∀ now, now ≤ d → advance { w with now } [.script rest wake, .call c (some d)] = none)
    (hm : ∀ moment ∈ wake, d ≤ moment) :
    ∃ n ≤ 2, Run n w [.script rest wake, .call c (some d)]
      (({ w with now := w.now + left } : World).report
        (c.resume (.error (.timedOut (w.timeouts.limit verb)))).2)
      [.call (c.resume (.error (.timedOut (w.timeouts.limit verb)))).1 none] := by
  have late : Run 1 { w with now := d } [.script rest wake, .call c (some d)]
      (({ w with now := d } : World).report
        (c.resume (.error (.timedOut (w.timeouts.limit verb)))).2)
      [.call (c.resume (.error (.timedOut (w.timeouts.limit verb)))).1 none] := by
    refine .step (result?_inner ..) ?_ (.zero _ _)
    rw [hstuck d (Nat.le_refl d)]
    simp [expire, hc, deliver_call]
  subst hd
  rcases Nat.eq_zero_or_pos left with rfl | hpos
  · exact ⟨1, by omega, late⟩
  · have hm : ([.script rest wake, .call c (some (w.now + left))].flatMap Frame.moments).min? =
        some (w.now + left) := by
      cases wake with
      | none => simp [Frame.moments]
      | some moment =>
        have hle := hm moment rfl
        simp [Frame.moments, Nat.min_eq_right hle]
    refine ⟨2, Nat.le_refl 2, .jump (result?_inner ..) ?_ hm ?_⟩
    · rw [hstuck w.now (by omega)]
      have hlt : ¬ w.now + left ≤ w.now := by omega
      simp [expire, hc, hlt]
    · rw [Nat.max_eq_right (by omega)]
      exact late

theorem run_sleep {span : Nat} (hd : w.now + span ≤ d) :
    ∃ n ≤ 2, Run n w [.script rest (some (w.now + span)), .call c (some d)]
      { w with now := w.now + span } [.script rest none, .call c (some d)] := by
  have wakes : Run 1 { w with now := w.now + span }
      [.script rest (some (w.now + span)), .call c (some d)]
      { w with now := w.now + span } [.script rest none, .call c (some d)] :=
    .one (result?_inner ..) (by simp [advance])
  rcases Nat.eq_zero_or_pos span with rfl | hpos
  · exact ⟨1, by omega, wakes⟩
  · have hm : ([.script rest (some (w.now + span)), .call c (some d)].flatMap Frame.moments).min? =
        some (w.now + span) := by
      simp [Frame.moments, Nat.min_eq_left hd]
    refine ⟨2, Nat.le_refl 2, .jump (result?_inner ..) ?_ hm ?_⟩
    · have hlt : ¬ w.now + span ≤ w.now := by omega
      have hlt' : ¬ d ≤ w.now := by omega
      cases c <;> simp [advance, expire, Call.awaited, hlt, hlt']
    · rw [Nat.max_eq_right (by omega)]
      exact wakes

theorem run_refused {label : String} {inner : Verb} {f : Frame} {outer : List Frame}
    (hs : w.lifecycle.state ≠ .idle) (hs' : w.lifecycle.state ≠ .running) :
    Run 3 w (.script (.call label inner :: rest) none :: f :: outer)
      (w.note (.called label inner (.error (refusal inner w.lifecycle.state))))
      (.script rest none :: f :: outer) := by
  have asks : Run 1 w (.script (.call label inner :: rest) none :: f :: outer) w
      (.call (.enter inner) none :: .script (.call label inner :: rest) none :: f :: outer) :=
    .one (result?_inner ..) rfl
  have refused : Run 1 w
      (.call (.enter inner) none :: .script (.call label inner :: rest) none :: f :: outer) w
      (.call (.done (.error (refusal inner w.lifecycle.state))) none ::
        .script (.call label inner :: rest) none :: f :: outer) := by
    refine .one (result?_inner ..) ?_
    cases inner <;> simp [advance, Call.turn, enterStart, enterStop, hs, hs', refusal]
  exact (asks.trans refused).trans (.one (result?_inner ..) rfl)

/-- The steps of a callback come to what it makes of the world within its time, and then the call
that waits for it goes on. -/
theorem run_callback (hc : c.awaited = some verb) (script : Script) :
    ∀ (left : Nat) (w : World), w.now + left = d → w.lifecycle.state ≠ .idle →
      w.lifecycle.state ≠ .running → ∀ result,
      result = (outcome left script).getD (.error (.timedOut (w.timeouts.limit verb))) →
      ∃ n ≤ 3 * script.length + 1, Run n w [.script script none, .call c (some d)]
        ((w.perform left script).report (c.resume result).2) [.call (c.resume result).1 none] := by
  induction script with
  | nil =>
    rintro left w _ _ _ _ rfl
    exact ⟨1, by simp, .one (result?_inner ..) rfl⟩
  | cons action rest ih =>
    intro left w hd hs hs' result hr
    have goes {w' : World} {left' : Nat} {k : Nat} (hk : k ≤ 3)
        (hrun : Run k w [.script (action :: rest) none, .call c (some d)] w'
          [.script rest none, .call c (some d)])
        (hd' : w'.now + left' = d) (hl : w'.lifecycle.state = w.lifecycle.state)
        (ht : w'.timeouts = w.timeouts) (ho : outcome left (action :: rest) = outcome left' rest)
        (hp : w.perform left (action :: rest) = w'.perform left' rest) :
        ∃ n ≤ 3 * (action :: rest).length + 1, Run n w
          [.script (action :: rest) none, .call c (some d)]
          ((w.perform left (action :: rest)).report (c.resume result).2)
          [.call (c.resume result).1 none] := by
      obtain ⟨n, hn, htail⟩ := ih left' w' hd' (hl ▸ hs) (hl ▸ hs') result (by rw [hr, ho, ht])
      rw [hp]
      exact ⟨k + n, by simp only [List.length_cons]; omega, hrun.trans htail⟩
    cases action with
    | note entry => exact goes (by omega) (.one (result?_inner ..) rfl) hd rfl rfl rfl rfl
    | observe label => exact goes (by omega) (.one (result?_inner ..) rfl) hd rfl rfl rfl rfl
    | register name onStart onStop =>
      exact goes (by omega) (.one (result?_inner ..) rfl) hd (append_state ..) rfl rfl rfl
    | call label inner => exact goes (Nat.le_refl 3) (run_refused hs hs') hd rfl rfl rfl rfl
    | sleep span =>
      have falls : Run 1 w [.script (.sleep span :: rest) none, .call c (some d)] w
          [.script rest (some (w.now + span.nanos)), .call c (some d)] :=
        .one (result?_inner ..) rfl
      by_cases hle : span.nanos ≤ left
      · have hd' : w.now + span.nanos + (left - span.nanos) = d := by omega
        have hwake : w.now + span.nanos ≤ d := by omega
        obtain ⟨k, hk, hrun⟩ : ∃ k ≤ 2, Run k w
            [.script rest (some (w.now + span.nanos)), .call c (some d)]
            { w with now := w.now + span.nanos } [.script rest none, .call c (some d)] :=
          run_sleep hwake
        exact goes (by omega) (falls.trans hrun) hd' rfl rfl (by rw [outcome, if_pos hle])
          (by rw [perform, if_pos hle])
      · obtain rfl : result = .error (.timedOut (w.timeouts.limit verb)) := by
          rw [hr, outcome, if_neg hle]
          rfl
        have hwake : d < w.now + span.nanos := by omega
        have hstuck (now : Nat) (hnow : now ≤ d) : advance { w with now }
            [.script rest (some (w.now + span.nanos)), .call c (some d)] = none := by
          simp only [advance]
          rw [if_neg (by omega)]
        have hm : ∀ moment ∈ some (w.now + span.nanos), d ≤ moment := by
          simpa using Nat.le_of_lt hwake
        obtain ⟨k, hk, hrun⟩ := run_stuck hc hd hstuck hm
        rw [perform, if_neg hle]
        exact ⟨1 + k, by simp only [List.length_cons]; omega, falls.trans hrun⟩
    | hang =>
      obtain rfl : result = .error (.timedOut (w.timeouts.limit verb)) := hr
      have hstuck (now : Nat) (_ : now ≤ d) : advance { w with now }
          [.script (.hang :: rest) none, .call c (some d)] = none := rfl
      obtain ⟨k, hk, hrun⟩ := run_stuck hc hd hstuck nofun
      exact ⟨k, by simp only [List.length_cons]; omega, hrun⟩
    | finish value =>
      obtain rfl : result = value := hr
      exact ⟨1, by omega, .one (result?_inner ..) rfl⟩

end Callback

end World

end Telemetry.Lifecycle
