import Mathlib
import Telemetry.Lifecycle.Alone
import Telemetry.Proofs.Lifecycle.Order

namespace Telemetry

def Hook.callback {κ : Type} (h : Hook κ) : Lifecycle.Verb → Option κ
  | .start => h.onStart
  | .stop => h.onStop

namespace Lifecycle

namespace Outcome

def ofScript : Script → Outcome
  | [] => {}
  | .sleep span :: rest =>
    { span := (ofScript rest).span.map fun d ↦ ⟨span.nanos + d.nanos⟩
      result := (ofScript rest).result }
  | .hang :: _ => { span := none }
  | .finish result :: _ => { result }
  | _ :: rest => ofScript rest

end Outcome

def outcomeOf (verb : Verb) (h : Hook Script) : Outcome := (h.callback verb).elim {} .ofScript

def yield (t : Timeouts) (verb : Verb) (h : Hook Script) : Except HookError Unit :=
  (outcomeOf verb h).resultWithin (t.limit verb)

def failuresOf (t : Timeouts) (verb : Verb) (hooks : List (Hook Script)) : List Failure :=
  hooks.filterMap fun h ↦ match yield t verb h with
    | .ok _ => none
    | .error e => some ⟨h.name, e⟩

/-- How long the callbacks of hooks are waited for, in nanoseconds. -/
def toll (t : Timeouts) (verb : Verb) (hooks : List (Hook Script)) : Nat :=
  (hooks.map fun h ↦ ((outcomeOf verb h).spanWithin (t.limit verb)).nanos).sum

def isHeading (e : Event) : Bool :=
  e.message = "running start hook" || e.message = "running stop hook"

namespace World

def begun (w : World) : List Event := w.events.filter isHeading

def headings (verb : Verb) (hooks : List (Hook Script)) : List Event :=
  hooks.filterMap fun h ↦ (h.callback verb).map fun _ ↦ heading h.name verb

section Callbacks

theorem endsWithin_sleep (span : Duration) (rest : Script) (left : Nat) :
    (Outcome.ofScript (.sleep span :: rest)).endsWithin ⟨left⟩ =
      (decide (span.nanos ≤ left) && (Outcome.ofScript rest).endsWithin ⟨left - span.nanos⟩) := by
  simp only [Outcome.ofScript, Outcome.endsWithin]
  rcases (Outcome.ofScript rest).span with - | d
  · simp
  · have hd : span.nanos + d.nanos ≤ left ↔ span.nanos ≤ left ∧ d.nanos ≤ left - span.nanos := by
      omega
    simp [hd]

theorem spanWithin_sleep (span : Duration) (rest : Script) {left : Nat} (h : span.nanos ≤ left) :
    ((Outcome.ofScript (.sleep span :: rest)).spanWithin ⟨left⟩).nanos =
      span.nanos + ((Outcome.ofScript rest).spanWithin ⟨left - span.nanos⟩).nanos := by
  simp only [Outcome.ofScript, Outcome.spanWithin]
  rcases (Outcome.ofScript rest).span with - | d
  · simp only [Option.map_none, Option.getD_none]
    omega
  · simp only [Option.map_some, Option.getD_some]
    omega

theorem outcome_eq (script : Script) (left : Nat) : outcome left script =
    if (Outcome.ofScript script).endsWithin ⟨left⟩ then some (Outcome.ofScript script).result
    else none := by
  fun_induction outcome left script with
  | case2 left span rest hle ih =>
    have hr : (Outcome.ofScript (.sleep span :: rest)).result = (Outcome.ofScript rest).result := rfl
    rw [ih, endsWithin_sleep, hr]
    simp [hle]
  | case3 left span rest hlt => simp [endsWithin_sleep, hlt]
  | case6 left action rest _ _ _ ih => simp [ih, Outcome.ofScript]
  | _ => simp [Outcome.ofScript, Outcome.endsWithin, Duration.zero]

theorem now_perform (w : World) (left : Nat) (script : Script) : (w.perform left script).now =
    w.now + ((Outcome.ofScript script).spanWithin ⟨left⟩).nanos := by
  fun_induction perform w left script with
  | case5 w left span rest hle ih =>
    rw [ih, spanWithin_sleep span rest hle]
    exact Nat.add_assoc ..
  | case6 w left span rest hlt =>
    simp only [Outcome.ofScript, Outcome.spanWithin]
    rcases (Outcome.ofScript rest).span with - | d
    · simp
    · simp only [Option.map_some, Option.getD_some]
      omega
  | _ => simp_all [Outcome.ofScript, Outcome.spanWithin, Duration.zero, note, World.append, report]

/-- What the machine makes of a callback is what its outcome says. -/
theorem resultOf_eq (t : Timeouts) (verb : Verb) (h : Hook Script) :
    resultOf (t.limit verb) (h.callback verb) = yield t verb h := by
  unfold yield outcomeOf
  cases h.callback verb with
  | none => simp [resultOf, Outcome.resultWithin, Outcome.endsWithin, Duration.zero]
  | some script =>
    have hr : resultOf (t.limit verb) (some script) =
        (outcome (t.limit verb).nanos script).getD (.error (.timedOut (t.limit verb))) := rfl
    rw [hr, outcome_eq, Option.elim_some, Outcome.resultWithin]
    by_cases he : (Outcome.ofScript script).endsWithin (t.limit verb)
    · rw [if_pos he, if_pos he, Option.getD_some]
    · rw [if_neg he, if_neg he, Option.getD_none]

theorem stopFailures_eq (t : Timeouts) (hooks : List (Hook Script)) :
    stopFailures t.stop hooks = failuresOf t .stop hooks := by
  unfold stopFailures failuresOf
  congr 1
  funext h
  rw [← resultOf_eq]
  rfl

end Callbacks

section Clock

theorem now_invoke (w : World) (verb : Verb) (h : Hook Script) :
    (w.invoke verb h.name (h.callback verb)).now =
      w.now + ((outcomeOf verb h).spanWithin (w.timeouts.limit verb)).nanos := by
  unfold outcomeOf
  cases h.callback verb with
  | none => simp [invoke, Outcome.spanWithin, Duration.zero]
  | some script => exact now_perform _ _ script

theorem toll_cons (t : Timeouts) (verb : Verb) (h : Hook Script) (hooks : List (Hook Script)) :
    toll t verb (h :: hooks) =
      ((outcomeOf verb h).spanWithin (t.limit verb)).nanos + toll t verb hooks := rfl

theorem toll_append (t : Timeouts) (verb : Verb) (hooks more : List (Hook Script)) :
    toll t verb (hooks ++ more) = toll t verb hooks + toll t verb more := by
  simp [toll]

theorem toll_reverse (t : Timeouts) (verb : Verb) (hooks : List (Hook Script)) :
    toll t verb hooks.reverse = toll t verb hooks := by
  rw [toll, List.map_reverse, List.sum_reverse, toll]

theorem now_attempt (w : World) (h : Hook Script) : (w.attempt h).now =
    w.now + ((outcomeOf .start h).spanWithin w.timeouts.start).nanos :=
  now_invoke { w with lifecycle := _ } .start h

theorem startAll_timeouts (w : World) (hooks : List (Hook Script)) :
    (hooks.foldl startOne w).timeouts = w.timeouts := by
  induction hooks generalizing w with
  | nil => rfl
  | cons h hooks ih => rw [List.foldl_cons, ih, startOne_timeouts]

theorem now_startAll (w : World) (hooks : List (Hook Script)) :
    (hooks.foldl startOne w).now = w.now + toll w.timeouts .start hooks := by
  induction hooks generalizing w with
  | nil => rfl
  | cons h hooks ih =>
    have hone : (w.startOne h).now = (w.attempt h).now := rfl
    rw [List.foldl_cons, ih, startOne_timeouts, hone, now_attempt, toll_cons, Nat.add_assoc]
    rfl

theorem now_stopAll (w : World) (hooks : List (Hook Script)) :
    (hooks.foldl stopOne w).now = w.now + toll w.timeouts .stop hooks := by
  induction hooks generalizing w with
  | nil => rfl
  | cons h hooks ih =>
    have hone := now_invoke w .stop h
    rw [List.foldl_cons, ih, stopOne_timeouts, toll_cons, ← Nat.add_assoc]
    exact congrArg (· + _) hone

theorem now_wind (w : World) (kept : List (Hook Script)) (cause : Option Failure)
    (hooks : List (Hook Script)) :
    (w.wind kept cause hooks.reverse).now = w.now + toll w.timeouts .stop hooks := by
  rw [← toll_reverse]
  exact now_stopAll { w with lifecycle := _ } hooks.reverse

end Clock

section Beginnings

theorem begun_report (w : World) (es : List Event) :
    (w.report es).begun = w.begun ++ es.filter isHeading := List.filter_append ..

theorem isHeading_heading (name : String) (verb : Verb) : isHeading (heading name verb) = true := by
  cases verb <;> rfl

theorem filter_complaint (name : String) (verb : Verb) (result : Except HookError Unit) :
    (complaint name verb result).filter isHeading = [] := by
  cases result with
  | ok => rfl
  | error e => cases verb <;> rfl

theorem filter_rollbackEvents (cause : Option Failure) (failures : List Failure) :
    (Call.rollbackEvents cause failures).filter isHeading = [] := by
  unfold Call.rollbackEvents
  split
  · refine List.filter_eq_nil_iff.mpr fun e he ↦ ?_
    obtain ⟨f, -, rfl⟩ := List.mem_map.mp he
    simp [isHeading, Event.ofTexts]
  · rfl

theorem begun_append (w : World) (h : Hook Script) : (w.append h).begun = w.begun := by
  have hquiet : (w.lifecycle.appendEvents h).filter isHeading = [] := by
    unfold appendEvents
    split
    · rfl
    · split <;> rfl
  exact (begun_report _ _).trans (by rw [hquiet, List.append_nil]; rfl)

theorem begun_perform (w : World) (left : Nat) (script : Script) :
    (w.perform left script).begun = w.begun := by
  fun_induction perform w left script with
  | case3 w left name onStart onStop rest ih => rw [ih, begun_append]
  | _ => first | rfl | assumption

theorem begun_invoke (w : World) (verb : Verb) (h : Hook Script) :
    (w.invoke verb h.name (h.callback verb)).begun = w.begun ++ headings verb [h] := by
  cases hc : h.callback verb with
  | none => simp [invoke, headings, hc]
  | some script =>
    simp only [invoke, begun_report, begun_perform, filter_complaint, List.append_nil]
    simp [headings, hc, isHeading_heading]

theorem headings_append (verb : Verb) (hooks more : List (Hook Script)) :
    headings verb (hooks ++ more) = headings verb hooks ++ headings verb more :=
  List.filterMap_append ..

theorem begun_attempt (w : World) (h : Hook Script) :
    (w.attempt h).begun = w.begun ++ headings .start [h] :=
  begun_invoke { w with lifecycle := _ } .start h

theorem begun_startAll (w : World) (hooks : List (Hook Script)) :
    (hooks.foldl startOne w).begun = w.begun ++ headings .start hooks := by
  induction hooks generalizing w with
  | nil => exact (List.append_nil _).symm
  | cons h hooks ih =>
    have hone : (w.startOne h).begun = (w.attempt h).begun := rfl
    rw [List.foldl_cons, ih, hone, begun_attempt, List.append_assoc, ← headings_append]
    rfl

theorem begun_stopAll (w : World) (hooks : List (Hook Script)) :
    (hooks.foldl stopOne w).begun = w.begun ++ headings .stop hooks := by
  induction hooks generalizing w with
  | nil => exact (List.append_nil _).symm
  | cons h hooks ih =>
    have hone : (w.stopOne h).begun = w.begun ++ headings .stop [h] := begun_invoke w .stop h
    rw [List.foldl_cons, ih, hone, List.append_assoc, ← headings_append]
    rfl

theorem begun_wind (w : World) (kept : List (Hook Script)) (cause : Option Failure)
    (hooks : List (Hook Script)) :
    (w.wind kept cause hooks).begun = w.begun ++ headings .stop hooks := by
  refine (begun_report _ _).trans ?_
  rw [filter_rollbackEvents, List.append_nil]
  exact begun_stopAll { w with lifecycle := _ } hooks

end Beginnings

section Calls

variable {w : World} {hs started rest : List (Hook Script)} {h : Hook Script}

theorem start_call_of_done (hl : Launch w.timeouts.start hs started [] none) :
    ({ w with lifecycle := ⟨hs, 0, .idle⟩ } : World).call .start none =
      (some (.returned (.ok ())),
        { started.foldl startOne { w with lifecycle := ⟨hs, 0, .starting⟩ } with
          lifecycle := ⟨started.map disarm, started.length, .running⟩ }) := by
  obtain ⟨n, hn, hrun, hlife⟩ := start_run w hl
  simp only [List.take_nil, List.drop_nil, List.foldl_nil, List.map_nil, List.append_nil,
    Option.elim_none] at hn hrun hlife
  have settles : Run 1 (started.foldl startOne { w with lifecycle := ⟨hs, 0, .starting⟩ })
      [.call .settle none]
      { started.foldl startOne { w with lifecycle := ⟨hs, 0, .starting⟩ } with
        lifecycle := ⟨started.map disarm, started.length, .running⟩ }
      [.call (.done (.ok ())) none] := by
    refine .one rfl ?_
    simp [advance, Call.turn, Lifecycle.settle, hlife]
  refine (hrun.trans settles).call_eq ?_
  have htoil := hl.toil_le
  have hfuel := sum_bulk_le_fuel hs 8
  rw [List.append_nil, sum_toil] at htoil
  show n + 1 < 16 * hs.foldl (fun n h ↦ n + weightHook h) 8
  omega

theorem start_call_of_failed {f : Failure}
    (hl : Launch w.timeouts.start hs started (h :: rest) (some f)) :
    ({ w with lifecycle := ⟨hs, 0, .idle⟩ } : World).call .start none =
      (some (.returned (.error (.start f))),
        ((started.foldl startOne { w with lifecycle := ⟨hs, 0, .starting⟩ }).attempt h).wind
          (disarm h :: rest) (some f) started.reverse) := by
  obtain ⟨n, hn, hrun, hlife⟩ := start_run w hl
  simp only [List.take_succ_cons, List.take_zero, List.drop_succ_cons, List.drop_zero,
    List.foldl_cons, List.foldl_nil, List.map_cons, List.map_nil, List.append_assoc,
    List.singleton_append, Option.elim_some] at hn hrun hlife
  have hstarted : ((started.foldl startOne
      { w with lifecycle := ⟨hs, 0, .starting⟩ }).attempt h).lifecycle.started =
      (started.map disarm).length := by rw [hlife, List.length_map]
  obtain ⟨m, hm, hwind⟩ := run_wind (some f) (congrArg Lifecycle.hooks hlife) hstarted
  rw [← List.map_reverse, stopFailures_map_disarm, wind_map_disarm] at hwind
  refine (hrun.trans hwind).call_eq ?_
  have htoil := hl.toil_le
  have hfuel := sum_bulk_le_fuel hs 8
  have hstops : ((started.map disarm).map fun h ↦ steps h.onStop) =
      started.map fun h ↦ steps h.onStop := by
    rw [List.map_map]
    rfl
  rw [sum_toil] at htoil
  rw [hstops] at hm
  simp only [List.map_append, List.sum_append, List.map_cons, List.sum_cons, List.map_nil,
    List.sum_nil] at hn htoil
  show n + m < 16 * hs.foldl (fun n h ↦ n + weightHook h) 8
  omega

/-- A callback is waited for until it is through or its limit is reached, and in the second case it
has timed out. So
* a stop call runs the stop callbacks of all started hooks, whatever comes of them, last one first,
  fails with just those that do not succeed, in that order, and takes as long as they do together;
* a start call that fails takes as long as the start callbacks that it has run, the failed one
  included, and the stop callbacks of the hooks before that one. -/
theorem call_duration (w : World) :
    (∀ started kept : List (Hook Script),
      let running : World := { w with lifecycle := ⟨started ++ kept, started.length, .running⟩ }
      let failures := failuresOf w.timeouts .stop started.reverse
      ∃ after, running.call .stop none =
          (some (.returned (if failures = [] then .ok () else .error (.stop failures))), after) ∧
        after.lifecycle = ⟨kept, 0, .stopped⟩ ∧
        after.begun = w.begun ++ headings .stop started.reverse ∧
        after.now = w.now + toll w.timeouts .stop started) ∧
    ∀ hs : List (Hook Script),
      let idle : World := { w with lifecycle := ⟨hs, 0, .idle⟩ }
      let limit := w.timeouts.start
      (∃ started after, started = hs ++ started.flatMap (fun g ↦ registeredBy limit g.onStart) ∧
        (∀ g ∈ started, yield w.timeouts .start g = .ok ()) ∧
        idle.call .start none = (some (.returned (.ok ())), after) ∧
        after.lifecycle = ⟨started.map disarm, started.length, .running⟩ ∧
        after.begun = w.begun ++ headings .start started ∧
        after.now = w.now + toll w.timeouts .start started) ∨
      ∃ started h rest e after, started ++ h :: rest =
          hs ++ (started ++ [h]).flatMap (fun g ↦ registeredBy limit g.onStart) ∧
        (∀ g ∈ started, yield w.timeouts .start g = .ok ()) ∧
        yield w.timeouts .start h = .error e ∧
        idle.call .start none = (some (.returned (.error (.start ⟨h.name, e⟩))), after) ∧
        after.lifecycle = ⟨disarm h :: rest, 0, .stopped⟩ ∧
        after.begun = w.begun ++ headings .start (started ++ [h]) ++
          headings .stop started.reverse ∧
        after.now = w.now + toll w.timeouts .start (started ++ [h]) +
          toll w.timeouts .stop started := by
  refine ⟨fun started kept ↦ ?_, fun hs ↦ ?_⟩
  · have hcall := stop_call_kept w started kept
    rw [stopFailures_eq] at hcall
    refine ⟨_, ?_, rfl, begun_wind w kept none _, now_wind w kept none started⟩
    rw [hcall]
    simp [Call.verdict]
  · obtain ⟨started, left, f, hl⟩ := exists_launch w.timeouts.start hs
    have heq := hl.hooks_eq
    have hok (g : Hook Script) (hg : g ∈ started) : yield w.timeouts .start g = .ok () :=
      (resultOf_eq w.timeouts .start g).symm.trans (hl.succeeded g hg)
    rcases hl.left_cases with ⟨rfl, rfl⟩ | ⟨h, rest, e, rfl, rfl, he⟩
    · refine .inl ⟨started, _, by simpa using heq, hok, start_call_of_done hl, rfl, ?_, ?_⟩
      · exact begun_startAll { w with lifecycle := _ } started
      · exact now_startAll { w with lifecycle := _ } started
    · have hfail : yield w.timeouts .start h = .error e :=
        (resultOf_eq w.timeouts .start h).symm.trans he
      refine .inr ⟨started, h, rest, e, _, by simpa using heq, hok, hfail,
        start_call_of_failed hl, rfl, ?_, ?_⟩
      · rw [begun_wind, begun_attempt, begun_startAll, List.append_assoc _ _ (headings .start [h]),
          ← headings_append]
        rfl
      · have ht := startAll_timeouts { w with lifecycle := ⟨hs, 0, .starting⟩ } started
        rw [now_wind, attempt_timeouts, now_attempt, now_startAll, ht, toll_append,
          ← Nat.add_assoc w.now]
        rfl

end Calls

end World

end Lifecycle

end Telemetry
