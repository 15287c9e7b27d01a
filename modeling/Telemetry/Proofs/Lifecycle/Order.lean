import Mathlib
import Telemetry.Proofs.Lifecycle.Callback

namespace Telemetry.Lifecycle

def disarm {κ : Type} (h : Hook κ) : Hook κ := { h with onStart := none }

namespace World

def resultOf (limit : Duration) : Option Script → Except HookError Unit
  | none => .ok ()
  | some script => (outcome limit.nanos script).getD (.error (.timedOut limit))

def registeredBy (limit : Duration) : Option Script → List (Hook Script)
  | none => []
  | some script => registered limit.nanos script

def heading (name : String) : Verb → Event
  | .start => .ofTexts .debug "running start hook" [("hook", name)]
  | .stop => .ofTexts .debug "running stop hook" [("hook", name)]

def complaint (name : String) : Verb → Except HookError Unit → List Event
  | _, .ok _ => []
  | .start, .error e => [.ofTexts .error "start hook failed, rolling back"
      [("hook", name), ("error", e.message)]]
  | .stop, .error e => [.ofTexts .warn "stop hook failed" [("hook", name), ("error", e.message)]]

def invoke (w : World) (verb : Verb) (name : String) : Option Script → World
  | none => w
  | some script =>
    let limit := w.timeouts.limit verb
    ((w.report [heading name verb]).perform limit.nanos script).report
      (complaint name verb (resultOf limit (some script)))

def attempt (w : World) (h : Hook Script) : World :=
  let hooks := w.lifecycle.hooks.set w.lifecycle.started (disarm h)
  { w with lifecycle := { w.lifecycle with hooks } }.invoke .start h.name h.onStart

def startOne (w : World) (h : Hook Script) : World :=
  { w.attempt h with lifecycle := (w.attempt h).lifecycle.countStarted }

def stopOne (w : World) (h : Hook Script) : World := w.invoke .stop h.name h.onStop

def stopFailures (limit : Duration) (hooks : List (Hook Script)) : List Failure :=
  hooks.filterMap fun h ↦ match resultOf limit h.onStop with
    | .ok _ => none
    | .error e => some ⟨h.name, e⟩

@[simp] theorem invoke_timeouts (w : World) (verb : Verb) (name : String)
    (callback : Option Script) : (w.invoke verb name callback).timeouts = w.timeouts := by
  cases callback with
  | none => rfl
  | some script => simp [invoke, report]

@[simp] theorem attempt_timeouts (w : World) (h : Hook Script) :
    (w.attempt h).timeouts = w.timeouts := invoke_timeouts ..

@[simp] theorem startOne_timeouts (w : World) (h : Hook Script) :
    (w.startOne h).timeouts = w.timeouts := attempt_timeouts ..

@[simp] theorem stopOne_timeouts (w : World) (h : Hook Script) :
    (w.stopOne h).timeouts = w.timeouts := invoke_timeouts ..

theorem invoke_lifecycle (w : World) (verb : Verb) (name : String) (callback : Option Script) :
    (w.invoke verb name callback).lifecycle =
      (registeredBy (w.timeouts.limit verb) callback).foldl Lifecycle.append w.lifecycle := by
  cases callback with
  | none => rfl
  | some script => simp [invoke, report, perform_lifecycle, registeredBy]

theorem foldl_append_starting (new hooks : List (Hook Script)) (started : Nat) :
    new.foldl Lifecycle.append ⟨hooks, started, .starting⟩ =
      ⟨hooks ++ new, started, .starting⟩ := by
  induction new generalizing hooks with
  | nil => simp
  | cons h new ih => simp [Lifecycle.append, accepts, ih]

theorem foldl_append_stopping (new hooks : List (Hook Script)) (started : Nat) :
    new.foldl Lifecycle.append ⟨hooks, started, .stopping⟩ = ⟨hooks, started, .stopping⟩ := by
  induction new with
  | nil => rfl
  | cons h new ih => simpa [Lifecycle.append, accepts] using ih

theorem foldl_append_running (new hooks : List (Hook Script)) :
    new.foldl Lifecycle.append ⟨hooks, hooks.length, .running⟩ =
      ⟨hooks ++ new.filter (·.onStart.isNone),
        (hooks ++ new.filter (·.onStart.isNone)).length, .running⟩ := by
  induction new generalizing hooks with
  | nil => simp
  | cons h new ih =>
    cases hh : h.onStart.isNone with
    | true =>
      have taken : Lifecycle.append ⟨hooks, hooks.length, .running⟩ h =
          ⟨hooks ++ [h], (hooks ++ [h]).length, .running⟩ := by
        simp [Lifecycle.append, accepts, hh]
      rw [List.foldl_cons, taken, ih]
      simp [hh]
    | false =>
      have ignored : Lifecycle.append ⟨hooks, hooks.length, .running⟩ h =
          ⟨hooks, hooks.length, .running⟩ := by
        simp [Lifecycle.append, accepts, hh]
      rw [List.foldl_cons, ignored, ih]
      simp [hh]

def launching (started queue : List (Hook Script)) : Lifecycle Script :=
  ⟨started.map disarm ++ queue, started.length, .starting⟩

theorem attempt_lifecycle {w : World} {started rest : List (Hook Script)} {h : Hook Script}
    (hw : w.lifecycle = launching started (h :: rest)) : (w.attempt h).lifecycle =
      ⟨started.map disarm ++ disarm h :: (rest ++ registeredBy w.timeouts.start h.onStart),
        started.length, .starting⟩ := by
  have disarmed : (launching started (h :: rest)).hooks.set started.length (disarm h) =
      started.map disarm ++ disarm h :: rest := by
    simp [launching]
  rw [attempt, invoke_lifecycle, hw]
  simp only [launching] at disarmed ⊢
  rw [disarmed, foldl_append_starting]
  simp [Timeouts.limit]

theorem startOne_lifecycle {w : World} {started rest : List (Hook Script)} {h : Hook Script}
    (hw : w.lifecycle = launching started (h :: rest)) : (w.startOne h).lifecycle =
      launching (started ++ [h]) (rest ++ registeredBy w.timeouts.start h.onStart) := by
  rw [startOne, attempt_lifecycle hw]
  simp [countStarted, launching]

theorem stopOne_lifecycle {w : World} (hw : w.lifecycle.state = .stopping) (h : Hook Script) :
    (w.stopOne h).lifecycle = w.lifecycle := by
  obtain ⟨⟨hooks, started, state⟩, timeouts, now, journal, events⟩ := w
  obtain rfl : state = .stopping := hw
  rw [stopOne, invoke_lifecycle, foldl_append_stopping]

/-- How the hooks in a queue get started: those that have started, those that are left when a start
callback fails, the failed one first, and that failure. -/
inductive Launch (limit : Duration) : List (Hook Script) → List (Hook Script) →
    List (Hook Script) → Option Failure → Prop
  | done : Launch limit [] [] [] none
  | failed {h : Hook Script} {rest : List (Hook Script)} {e : HookError}
      (hr : resultOf limit h.onStart = .error e) :
      Launch limit (h :: rest) [] (h :: (rest ++ registeredBy limit h.onStart)) (some ⟨h.name, e⟩)
  | next {h : Hook Script} {rest started left : List (Hook Script)} {f : Option Failure}
      (hr : resultOf limit h.onStart = .ok ())
      (ht : Launch limit (rest ++ registeredBy limit h.onStart) started left f) :
      Launch limit (h :: rest) (h :: started) left f

def steps (callback : Option Script) : Nat := (callback.getD []).length + 1

def toil (h : Hook Script) : Nat := steps h.onStart + steps h.onStop

def bulk (h : Hook Script) : Nat := weightOption h.onStart + weightOption h.onStop + 2

theorem length_le_weight (script : Script) : script.length ≤ weight script := by
  induction script with
  | nil => exact Nat.zero_le _
  | cons action rest ih =>
    have ha : 1 ≤ weightOne action := by
      cases action <;> simp only [weightOne] <;> omega
    simp only [List.length_cons, weight]
    omega

theorem weight_registered (script : Script) (left : Nat) :
    script.length + ((registered left script).map bulk).sum ≤ weight script := by
  induction script generalizing left with
  | nil => exact Nat.zero_le _
  | cons action rest ih =>
    have hw := length_le_weight rest
    cases action with
    | register name onStart onStop =>
      have hrest := ih left
      simp only [registered, weight, weightOne, bulk, List.length_cons, List.map_cons,
        List.sum_cons] at hrest ⊢
      omega
    | sleep span =>
      have hrest := ih (left - span.nanos)
      simp only [registered, weight, weightOne, List.length_cons]
      split
      · omega
      · simp only [List.map_nil, List.sum_nil]
        omega
    | hang | finish =>
      simp only [registered, weight, weightOne, List.length_cons, List.map_nil, List.sum_nil]
      omega
    | note | observe | call =>
      have hrest := ih left
      simp only [registered, weight, weightOne, List.length_cons]
      omega

theorem toil_le_bulk (limit : Duration) (h : Hook Script) :
    toil h + ((registeredBy limit h.onStart).map bulk).sum ≤ bulk h := by
  have stops : steps h.onStop ≤ weightOption h.onStop + 1 := by
    cases h.onStop with
    | none => simp [steps, weightOption]
    | some script =>
      have hw := weight_registered script 0
      simp only [steps, weightOption, Option.getD_some]
      omega
  have starts : steps h.onStart + ((registeredBy limit h.onStart).map bulk).sum ≤
      weightOption h.onStart + 1 := by
    cases h.onStart with
    | none => simp [steps, weightOption, registeredBy]
    | some script =>
      have hw := weight_registered script limit.nanos
      simp only [steps, weightOption, registeredBy, Option.getD_some]
      omega
  simp only [toil, bulk]
  omega

theorem sum_toil_le (hooks : List (Hook Script)) :
    (hooks.map toil).sum ≤ (hooks.map bulk).sum := by
  induction hooks with
  | nil => exact Nat.le_refl _
  | cons h hooks ih =>
    have hb := toil_le_bulk .zero h
    simp only [List.map_cons, List.sum_cons]
    omega

theorem exists_launch (limit : Duration) (queue : List (Hook Script)) :
    ∃ started left f, Launch limit queue started left f := by
  -- A hook that starts is replaced by the hooks that it registers, which are less than it in bulk.
  induction hn : (queue.map bulk).sum using Nat.strongRecOn generalizing queue with
  | ind n ih =>
    cases queue with
    | nil => exact ⟨[], [], none, .done⟩
    | cons h rest =>
      cases hr : resultOf limit h.onStart with
      | error e => exact ⟨_, _, _, .failed hr⟩
      | ok =>
        have hb := toil_le_bulk limit h
        have hlt : ((rest ++ registeredBy limit h.onStart).map bulk).sum < n := by
          simp only [List.map_append, List.sum_append]
          simp only [List.map_cons, List.sum_cons] at hn
          simp only [toil, steps] at hb
          omega
        obtain ⟨started, left, f, ht⟩ := ih _ hlt _ rfl
        exact ⟨_, _, _, .next hr ht⟩

namespace Launch

variable {limit : Duration} {queue started left : List (Hook Script)} {f : Option Failure}

theorem succeeded (h : Launch limit queue started left f) :
    ∀ g ∈ started, resultOf limit g.onStart = .ok () := by
  induction h with
  | done | failed => nofun
  | next hr _ ih => exact List.forall_mem_cons.mpr ⟨hr, ih⟩

theorem hooks_eq (h : Launch limit queue started left f) : started ++ left =
    queue ++ (started ++ left.take 1).flatMap fun g ↦ registeredBy limit g.onStart := by
  induction h with
  | done => rfl
  | failed hr => simp
  | next hr _ ih => simp [ih]

theorem left_cases (h : Launch limit queue started left f) : f = none ∧ left = [] ∨
    ∃ g rest e, f = some ⟨g.name, e⟩ ∧ left = g :: rest ∧ resultOf limit g.onStart = .error e := by
  induction h with
  | done => exact .inl ⟨rfl, rfl⟩
  | failed hr => exact .inr ⟨_, _, _, rfl, rfl, hr⟩
  | next _ _ ih => exact ih

theorem toil_le (h : Launch limit queue started left f) :
    ((started ++ left).map toil).sum ≤ (queue.map bulk).sum := by
  induction h with
  | done => exact Nat.le_refl _
  | @failed h rest e hr =>
    have hb := toil_le_bulk limit h
    have hrest := sum_toil_le (rest ++ registeredBy limit h.onStart)
    simp only [List.map_append, List.sum_append, List.map_cons, List.sum_cons,
      List.nil_append] at hrest ⊢
    omega
  | @next h rest started left f hr _ ih =>
    have hb := toil_le_bulk limit h
    simp only [List.map_append, List.sum_append, List.map_cons, List.sum_cons,
      List.cons_append] at ih ⊢
    omega

end Launch

theorem run_invoke {w : World} {c : Call Script} {verb : Verb} {name : String}
    (hc : c.awaited = some verb) (hv : ∀ result, (c.resume result).2 = complaint name verb result)
    (hs : w.lifecycle.state ≠ .idle) (hs' : w.lifecycle.state ≠ .running) (script : Script) :
    ∃ n ≤ 3 * script.length + 1, Run n (w.report [heading name verb])
      [.script script none, .call c (some (w.now + (w.timeouts.limit verb).nanos))]
      (w.invoke verb name (some script))
      [.call (c.resume (resultOf (w.timeouts.limit verb) (some script))).1 none] := by
  obtain ⟨n, hn, hrun⟩ := run_callback hc script (w.timeouts.limit verb).nanos
    (w.report [heading name verb]) rfl hs hs'
    (resultOf (w.timeouts.limit verb) (some script)) rfl
  rw [hv] at hrun
  exact ⟨n, hn, hrun⟩

theorem run_attempt {w : World} {started rest : List (Hook Script)} {h : Hook Script}
    (hw : w.lifecycle = launching started (h :: rest)) :
    ∃ n < 3 * steps h.onStart, Run n w [.call .seek none] (w.attempt h)
      [.call ((Call.starting h.name).resume (resultOf w.timeouts.start h.onStart)).1 none] := by
  have found : w.lifecycle.hooks[w.lifecycle.started]? = some h := by
    simp [hw, launching]
  cases hcb : h.onStart with
  | none =>
    refine ⟨1, by simp [steps], .one rfl ?_⟩
    simp [advance, Call.turn, takeStart, found, hcb, attempt, invoke, disarm, resultOf, Call.resume]
  | some script =>
    let w' : World := { w with lifecycle := { w.lifecycle with
      hooks := w.lifecycle.hooks.set w.lifecycle.started (disarm h) } }
    have calls : Run 1 w [.call .seek none] (w'.report [heading h.name .start])
        [.script script none,
          .call (.starting h.name) (some (w.now + w.timeouts.start.nanos))] := by
      refine .one rfl ?_
      simp [advance, Call.turn, takeStart, found, hcb, Timeouts.limit, disarm, heading, w']
    have hs : w'.lifecycle.state = .starting := by
      simp [w', hw, launching]
    obtain ⟨n, hn, hrun⟩ : ∃ n ≤ 3 * script.length + 1, Run n (w'.report [heading h.name .start])
        [.script script none, .call (.starting h.name) (some (w.now + w.timeouts.start.nanos))]
        (w'.invoke .start h.name (some script))
        [.call ((Call.starting h.name).resume (resultOf w.timeouts.start (some script))).1 none] :=
      run_invoke rfl (fun result ↦ by cases result <;> rfl) (by simp [hs]) (by simp [hs]) script
    rw [attempt, hcb]
    exact ⟨1 + n, by simp only [steps, Option.getD_some]; omega, calls.trans hrun⟩

theorem run_stopOne {w : World} (hw : w.lifecycle.state = .stopping) (h : Hook Script)
    (cause : Option Failure) (rest : List (String × Option Script)) (failures : List Failure) :
    ∃ n < 3 * steps h.onStop, Run n w
      [.call (.unwind cause ((h.name, h.onStop) :: rest) failures) none] (w.stopOne h)
      [.call (.unwind cause rest (failures ++ stopFailures w.timeouts.stop [h])) none] := by
  cases hcb : h.onStop with
  | none =>
    refine ⟨1, by simp [steps], .one rfl ?_⟩
    simp [advance, Call.turn, stopOne, invoke, stopFailures, resultOf, hcb]
  | some script =>
    let c : Call Script := .stopping cause h.name rest failures
    have calls : Run 1 w [.call (.unwind cause ((h.name, some script) :: rest) failures) none]
        (w.report [heading h.name .stop])
        [.script script none, .call c (some (w.now + w.timeouts.stop.nanos))] := .one rfl rfl
    obtain ⟨n, hn, hrun⟩ : ∃ n ≤ 3 * script.length + 1, Run n (w.report [heading h.name .stop])
        [.script script none, .call c (some (w.now + w.timeouts.stop.nanos))]
        (w.invoke .stop h.name (some script))
        [.call (c.resume (resultOf w.timeouts.stop (some script))).1 none] :=
      run_invoke rfl (fun result ↦ by cases result <;> rfl) (by simp [hw]) (by simp [hw]) script
    have goes : (c.resume (resultOf w.timeouts.stop (some script))).1 =
        .unwind cause rest (failures ++ stopFailures w.timeouts.stop [h]) := by
      cases hr : resultOf w.timeouts.stop (some script) <;>
        simp [c, Call.resume, stopFailures, hcb, hr]
    rw [stopOne, hcb, ← goes]
    exact ⟨1 + n, by simp only [steps, Option.getD_some]; omega, calls.trans hrun⟩

theorem run_stops (cause : Option Failure) (hooks : List (Hook Script)) :
    ∀ (w : World) (failures : List Failure), w.lifecycle.state = .stopping →
      ∃ n ≤ 3 * (hooks.map fun h ↦ steps h.onStop).sum, Run n w
        [.call (.unwind cause (hooks.map fun h ↦ (h.name, h.onStop)) failures) none]
        (hooks.foldl stopOne w)
        [.call (.unwind cause [] (failures ++ stopFailures w.timeouts.stop hooks)) none] ∧
        (hooks.foldl stopOne w).lifecycle = w.lifecycle := by
  induction hooks with
  | nil =>
    intro w failures _
    exact ⟨0, Nat.le_refl _, by simpa [stopFailures] using .zero w _, rfl⟩
  | cons h hooks ih =>
    intro w failures hw
    have hl := stopOne_lifecycle hw h
    obtain ⟨n, hn, hrun⟩ := run_stopOne hw h cause (hooks.map fun h ↦ (h.name, h.onStop)) failures
    obtain ⟨m, hm, htail, hlast⟩ := ih (w.stopOne h) (failures ++ stopFailures w.timeouts.stop [h])
      (by rw [hl, hw])
    have joined : failures ++ stopFailures w.timeouts.stop [h] ++
        stopFailures (w.stopOne h).timeouts.stop hooks =
        failures ++ stopFailures w.timeouts.stop (h :: hooks) := by
      rw [stopOne_timeouts, List.append_assoc]
      simp only [stopFailures, ← List.filterMap_append, List.singleton_append]
    rw [joined] at htail
    refine ⟨n + m, ?_, hrun.trans htail, hlast.trans hl⟩
    simp only [List.map_cons, List.sum_cons]
    omega

def wind (w : World) (kept : List (Hook Script)) (cause : Option Failure)
    (hooks : List (Hook Script)) : World :=
  let w' := hooks.foldl stopOne { w with lifecycle := ⟨kept, 0, .stopping⟩ }
  ({ w' with lifecycle := ⟨kept, 0, .stopped⟩ } : World).report
    (Call.rollbackEvents cause (stopFailures w.timeouts.stop hooks))

theorem run_wind {w : World} {hooks kept : List (Hook Script)} (cause : Option Failure)
    (hw : w.lifecycle.hooks = hooks ++ kept) (hn : w.lifecycle.started = hooks.length) :
    ∃ n ≤ 3 * (hooks.map fun h ↦ steps h.onStop).sum + 3, Run n w [.call (.drain cause) none]
      (w.wind kept cause hooks.reverse)
      [.call (.done (Call.verdict cause (stopFailures w.timeouts.stop hooks.reverse))) none] := by
  let w' : World := { w with lifecycle := ⟨kept, 0, .stopping⟩ }
  have drains : Run 1 w [.call (.drain cause) none] w'
      [.call (.unwind cause (hooks.reverse.map fun h ↦ (h.name, h.onStop)) []) none] := by
    refine .one rfl ?_
    simp [advance, Call.turn, Lifecycle.drain, hw, hn, w']
  obtain ⟨n, hle, hrun, hl⟩ := run_stops cause hooks.reverse w' [] rfl
  have closes : Run 2 (hooks.reverse.foldl stopOne w')
      [.call (.unwind cause [] (stopFailures w.timeouts.stop hooks.reverse)) none]
      (w.wind kept cause hooks.reverse)
      [.call (.done (Call.verdict cause (stopFailures w.timeouts.stop hooks.reverse))) none] := by
    have empty : Run 1 (hooks.reverse.foldl stopOne w')
        [.call (.unwind cause [] (stopFailures w.timeouts.stop hooks.reverse)) none]
        (hooks.reverse.foldl stopOne w')
        [.call (.close cause (stopFailures w.timeouts.stop hooks.reverse)) none] :=
      .one rfl (by simp [advance, Call.turn])
    refine empty.trans (.one rfl ?_)
    simp only [advance, Call.turn, Lifecycle.close, hl, wind, w']
  refine ⟨1 + n + 2, ?_, (drains.trans (by simpa using hrun)).trans closes⟩
  rw [List.map_reverse, List.sum_reverse] at hle
  omega

theorem Launch.run {limit : Duration} {queue started left : List (Hook Script)}
    {f : Option Failure} (h : Launch limit queue started left f) :
    ∀ (w : World) (before : List (Hook Script)), limit = w.timeouts.start →
      w.lifecycle = launching before queue →
      ∃ n ≤ 3 * ((started ++ left.take 1).map fun g ↦ steps g.onStart).sum + 1,
        Run n w [.call .seek none] ((left.take 1).foldl attempt (started.foldl startOne w))
          [.call (f.elim .settle fun f ↦ .drain (some f)) none] ∧
        ((left.take 1).foldl attempt (started.foldl startOne w)).lifecycle =
          ⟨(before ++ started).map disarm ++ (left.take 1).map disarm ++ left.drop 1,
            (before ++ started).length, .starting⟩ := by
  induction h with
  | done =>
    rintro ⟨lifecycle, timeouts, now, journal, events⟩ before _ rfl
    refine ⟨1, by simp, .one rfl ?_, by simp [launching]⟩
    simp [advance, Call.turn, takeStart, launching]
  | @failed h rest e hr =>
    rintro w before rfl hw
    obtain ⟨n, hn, hrun⟩ := run_attempt hw
    rw [hr] at hrun
    refine ⟨n, ?_, hrun, ?_⟩
    · simp only [List.nil_append, List.take_succ_cons, List.take_zero, List.map_cons, List.map_nil,
        List.sum_cons, List.sum_nil]
      omega
    · simpa using attempt_lifecycle hw
  | @next h rest started left f hr _ ih =>
    rintro w before rfl hw
    obtain ⟨n, hn, hrun⟩ := run_attempt hw
    rw [hr] at hrun
    have counts : Run 1 (w.attempt h) [.call .count none] (w.startOne h) [.call .seek none] :=
      .one rfl (by simp [advance, Call.turn, startOne])
    obtain ⟨m, hm, htail, hl⟩ := ih (w.startOne h) (before ++ [h])
      (by rw [startOne_timeouts]) (startOne_lifecycle hw)
    refine ⟨n + 1 + m, ?_, (hrun.trans counts).trans htail, ?_⟩
    · simp only [List.cons_append, List.map_cons, List.sum_cons]
      omega
    · simpa using hl

theorem stopFailures_map_disarm (limit : Duration) (hooks : List (Hook Script)) :
    stopFailures limit (hooks.map disarm) = stopFailures limit hooks := by
  rw [stopFailures, List.filterMap_map]
  rfl

theorem wind_map_disarm (w : World) (kept : List (Hook Script)) (cause : Option Failure)
    (hooks : List (Hook Script)) :
    w.wind kept cause (hooks.map disarm) = w.wind kept cause hooks := by
  rw [wind, List.foldl_map, stopFailures_map_disarm]
  rfl

theorem map_disarm_of_isNone (hooks : List (Hook Script)) :
    (hooks.filter (·.onStart.isNone)).map disarm = hooks.filter (·.onStart.isNone) := by
  refine (List.map_congr_left fun h hm ↦ ?_).trans (List.map_id _)
  obtain ⟨name, onStart, onStop⟩ := h
  obtain rfl : onStart = none := by simpa using (List.mem_filter.mp hm).2
  rfl

theorem sum_toil (hooks : List (Hook Script)) : (hooks.map toil).sum =
    (hooks.map fun h ↦ steps h.onStart).sum + (hooks.map fun h ↦ steps h.onStop).sum := by
  induction hooks with
  | nil => rfl
  | cons h hooks ih =>
    simp only [List.map_cons, List.sum_cons, ih, toil]
    omega

/-- The fuel of a call covers everything that the hooks can do. -/
theorem sum_bulk_le_fuel (hooks : List (Hook Script)) (n : Nat) :
    n + (hooks.map bulk).sum ≤ hooks.foldl (fun n h ↦ n + weightHook h) n := by
  induction hooks generalizing n with
  | nil => exact Nat.le_refl _
  | cons h hooks ih =>
    have htail := ih (n + weightHook h)
    have hb : bulk h ≤ weightHook h := by
      simp only [bulk, weightHook]
      omega
    simp only [List.map_cons, List.sum_cons, List.foldl_cons]
    omega

theorem stop_call_kept (w : World) (hooks kept : List (Hook Script)) :
    ({ w with lifecycle := ⟨hooks ++ kept, hooks.length, .running⟩ } : World).call .stop none =
      (some (.returned (Call.verdict none (stopFailures w.timeouts.stop hooks.reverse))),
        w.wind kept none hooks.reverse) := by
  let w' : World := { w with lifecycle := ⟨hooks ++ kept, hooks.length, .running⟩ }
  have enters : Run 1 w' [.call (.enter .stop) none] w' [.call (.drain none) none] :=
    .one rfl (by simp [advance, Call.turn, enterStop, w'])
  obtain ⟨n, hn, hrun⟩ := run_wind (w := w') none rfl rfl
  refine (enters.trans hrun).call_eq ?_
  have hfuel := sum_bulk_le_fuel (hooks ++ kept) 8
  have hsum := sum_toil hooks
  have htoil := sum_toil_le hooks
  rw [List.map_append, List.sum_append] at hfuel
  show 1 + n < 16 * (hooks ++ kept).foldl (fun n h ↦ n + weightHook h) 8
  omega

theorem stop_call (w : World) (hooks : List (Hook Script)) :
    ({ w with lifecycle := ⟨hooks, hooks.length, .running⟩ } : World).call .stop none =
      (some (.returned (Call.verdict none (stopFailures w.timeouts.stop hooks.reverse))),
        w.wind [] none hooks.reverse) := by
  simpa only [List.append_nil] using stop_call_kept w hooks []

theorem start_run (w : World) {hs started left : List (Hook Script)} {f : Option Failure}
    (h : Launch w.timeouts.start hs started left f) :
    ∃ n ≤ 3 * ((started ++ left.take 1).map fun g ↦ steps g.onStart).sum + 2,
      Run n { w with lifecycle := ⟨hs, 0, .idle⟩ } [.call (.enter .start) none]
        ((left.take 1).foldl attempt
          (started.foldl startOne { w with lifecycle := ⟨hs, 0, .starting⟩ }))
        [.call (f.elim .settle fun f ↦ .drain (some f)) none] ∧
      ((left.take 1).foldl attempt
          (started.foldl startOne { w with lifecycle := ⟨hs, 0, .starting⟩ })).lifecycle =
        ⟨started.map disarm ++ (left.take 1).map disarm ++ left.drop 1, started.length,
          .starting⟩ := by
  let begun : World := { w with lifecycle := ⟨hs, 0, .starting⟩ }
  have enters : Run 1 { w with lifecycle := ⟨hs, 0, .idle⟩ } [.call (.enter .start) none] begun
      [.call .seek none] :=
    .one rfl (by simp [advance, Call.turn, enterStart, begun])
  obtain ⟨n, hn, hrun, hl⟩ := h.run begun [] rfl rfl
  exact ⟨1 + n, by omega, enters.trans hrun, hl⟩

/-- Start callbacks are run one at a time in the order in which their hooks have been registered,
those included that start callbacks register. When all succeed the lifecycle runs, and a stop call
runs the stop callbacks in the opposite order, those included of hooks that have come in late. When
one fails, just the hooks before it are stopped, last one first, and it is kept with those after it. -/
theorem call_in_order (w : World) (hs : List (Hook Script)) :
    let limit := w.timeouts.start
    let idle : World := { w with lifecycle := ⟨hs, 0, .idle⟩ }
    let begun : World := { w with lifecycle := ⟨hs, 0, .starting⟩ }
    (∃ H, H = hs ++ H.flatMap (fun h ↦ registeredBy limit h.onStart) ∧
      (∀ h ∈ H, resultOf limit h.onStart = .ok ()) ∧
      idle.call .start none = (some (.returned (.ok ())),
        { H.foldl startOne begun with lifecycle := ⟨H.map disarm, H.length, .running⟩ }) ∧
      ∀ (later : World) (late : List (Hook Script)),
        let running := late.foldl Lifecycle.append ⟨H.map disarm, H.length, .running⟩
        let stops := (H ++ late.filter (·.onStart.isNone)).reverse
        ({ later with lifecycle := running } : World).call .stop none =
          (some (.returned (Call.verdict none (stopFailures later.timeouts.stop stops))),
            later.wind [] none stops)) ∨
    ∃ started h rest e,
      started ++ h :: rest =
        hs ++ (started ++ [h]).flatMap (fun h ↦ registeredBy limit h.onStart) ∧
      (∀ g ∈ started, resultOf limit g.onStart = .ok ()) ∧ resultOf limit h.onStart = .error e ∧
      idle.call .start none = (some (.returned (.error (.start ⟨h.name, e⟩))),
        ((started.foldl startOne begun).attempt h).wind (disarm h :: rest) (some ⟨h.name, e⟩)
          started.reverse) := by
  intro limit idle begun
  obtain ⟨started, left, f, hlaunch⟩ := exists_launch limit hs
  obtain ⟨n, hn, hrun, hl⟩ := start_run w hlaunch
  have heq := hlaunch.hooks_eq
  have htoil := hlaunch.toil_le
  have hfuel := sum_bulk_le_fuel hs 8
  have hsum := sum_toil (started ++ left)
  rcases hlaunch.left_cases with ⟨rfl, rfl⟩ | ⟨h, rest, e, rfl, rfl, he⟩
  · refine .inl ⟨started, by simpa using heq, hlaunch.succeeded, ?_, fun later late ↦ ?_⟩
    · have hstarting : (started.foldl startOne begun).lifecycle =
          ⟨started.map disarm, started.length, .starting⟩ := by simpa [begun] using hl
      have settles : Run 1 (started.foldl startOne begun) [.call .settle none]
          { started.foldl startOne begun with
            lifecycle := ⟨started.map disarm, started.length, .running⟩ }
          [.call (.done (.ok ())) none] := by
        refine .one rfl ?_
        simp [advance, Call.turn, Lifecycle.settle, hstarting]
      refine (hrun.trans settles).call_eq ?_
      simp only [List.take_nil] at hn
      show n + 1 < 16 * hs.foldl (fun n h ↦ n + weightHook h) 8
      omega
    · intro running stops
      have front : running = ⟨(started ++ late.filter (·.onStart.isNone)).map disarm,
          ((started ++ late.filter (·.onStart.isNone)).map disarm).length, .running⟩ := by
        have htaken := foldl_append_running late (started.map disarm)
        rw [List.length_map] at htaken
        rw [List.map_append, map_disarm_of_isNone]
        exact htaken
      rw [front, stop_call, ← List.map_reverse, stopFailures_map_disarm, wind_map_disarm]
  · refine .inr ⟨started, h, rest, e, by simpa using heq, hlaunch.succeeded, he, ?_⟩
    have hooks_split : ((started.foldl startOne begun).attempt h).lifecycle.hooks =
        started.map disarm ++ disarm h :: rest := by
      have hhooks := congrArg Lifecycle.hooks hl
      simpa using hhooks
    have hstarted : ((started.foldl startOne begun).attempt h).lifecycle.started =
        (started.map disarm).length := by
      have hcount := congrArg Lifecycle.started hl
      simpa using hcount
    obtain ⟨m, hm, hwind⟩ := run_wind (some ⟨h.name, e⟩) hooks_split hstarted
    rw [← List.map_reverse, stopFailures_map_disarm, wind_map_disarm] at hwind
    refine (hrun.trans hwind).call_eq ?_
    have hstops : ((started.map disarm).map fun h ↦ steps h.onStop) =
        started.map fun h ↦ steps h.onStop := by
      rw [List.map_map]
      rfl
    rw [hstops] at hm
    simp only [List.map_append, List.sum_append, List.map_cons, List.sum_cons, List.take_succ_cons,
      List.take_zero, List.map_nil, List.sum_nil] at hn hsum htoil
    show n + m < 16 * hs.foldl (fun n h ↦ n + weightHook h) 8
    omega

end World

end Telemetry.Lifecycle
