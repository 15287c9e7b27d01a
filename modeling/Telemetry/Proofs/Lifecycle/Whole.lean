import Mathlib
import Telemetry.Lifecycle.Alone
import Telemetry.Proofs.Lifecycle.Order

namespace Telemetry.Lifecycle

open World (heading complaint)

variable {κ σ : Type}

def Verb.entry : Verb → State
  | .start => .idle
  | .stop => .running

def blame (name : String) : Except HookError Unit → List Failure
  | .ok _ => []
  | .error e => [⟨name, e⟩]

def rising (done rest : List (Hook κ)) : Lifecycle κ :=
  ⟨done.map disarm ++ rest, done.length, .starting⟩

theorem takeStart_rising (done rest : List (Hook κ)) (h : Hook κ) :
    (rising done (h :: rest)).takeStart =
      some ((h.name, h.onStart), rising done (disarm h :: rest)) := by
  simp [takeStart, rising, disarm]

theorem countStarted_rising (done rest : List (Hook κ)) (h : Hook κ) :
    (rising done (disarm h :: rest)).countStarted = rising (done ++ [h]) rest := by
  simp [countStarted, rising]

namespace Course

variable (t : Timeouts) (exec : κ → σ → Outcome × σ)

def invoke (verb : Verb) (name : String) (callback : κ) (s : Course κ σ) :
    Except HookError Unit × Course κ σ :=
  let limit := t.limit verb
  let (outcome, surroundings) := exec callback s.surroundings
  let result := outcome.resultWithin limit
  (result, { s with
    surroundings
    elapsed := ⟨s.elapsed.nanos + (outcome.spanWithin limit).nanos⟩
    events := s.events ++ [heading name verb] ++ outcome.reportsWithin limit ++
      complaint name verb result })

def stopOne (r : List Failure × Course κ σ) (h : Hook κ) : List Failure × Course κ σ :=
  match h.onStop with
  | none => r
  | some callback =>
    let (result, s) := r.2.invoke t exec .stop h.name callback
    (r.1 ++ blame h.name result, s)

def stopAll (hooks : List (Hook κ)) (s : Course κ σ) : List Failure × Course κ σ :=
  hooks.foldl (stopOne t exec) ([], s)

def wind (cause : Option Failure) (s : Course κ σ) : Except Error Unit × Course κ σ :=
  let l := s.lifecycle
  let (failures, s) := s.stopAll t exec (l.hooks.take l.started).reverse
  (Call.verdict cause failures, { s with
    lifecycle := ⟨l.hooks.drop l.started, 0, .stopped⟩
    events := s.events ++ Call.rollbackEvents cause failures })

/-- The start callbacks of hooks succeed one after another. -/
inductive Climb : Course κ σ → List (Hook κ) → Course κ σ → Prop
  | nil (s : Course κ σ) : Climb s [] s
  | bare {s s' : Course κ σ} {h : Hook κ} {hooks : List (Hook κ)} (absent : h.onStart = none)
      (rest : Climb s hooks s') : Climb s (h :: hooks) s'
  | ran {s s₁ s' : Course κ σ} {h : Hook κ} {hooks : List (Hook κ)} {callback : κ}
      (present : h.onStart = some callback)
      (ok : s.invoke t exec .start h.name callback = (.ok (), s₁)) (rest : Climb s₁ hooks s') :
      Climb s (h :: hooks) s'

/-- The start callbacks of some hooks succeed, and that of the next hook fails. -/
def Fall (s : Course κ σ) (ahead : List (Hook κ)) (h : Hook κ) (e : HookError)
    (s' : Course κ σ) : Prop :=
  ∃ s₁ callback, Climb t exec s ahead s₁ ∧ h.onStart = some callback ∧
    s₁.invoke t exec .start h.name callback = (.error e, s')

variable {t exec}

theorem Climb.cons {s s₁ s' : Course κ σ} {h : Hook κ} {hooks : List (Hook κ)}
    (hc : Climb t exec s [h] s₁) (hr : Climb t exec s₁ hooks s') : Climb t exec s (h :: hooks) s' := by
  cases hc with
  | bare hnone hnil =>
    cases hnil
    exact .bare hnone hr
  | ran hsome hok hnil =>
    cases hnil
    exact .ran hsome hok hr

theorem climb_or_fall (hooks : List (Hook κ)) (s : Course κ σ) :
    (∃ s', Climb t exec s hooks s') ∨
      ∃ ahead h behind e s', hooks = ahead ++ h :: behind ∧ Fall t exec s ahead h e s' := by
  induction hooks generalizing s with
  | nil => exact .inl ⟨s, .nil s⟩
  | cons h hooks ih =>
    have onward {s₁ : Course κ σ} (hc : Climb t exec s [h] s₁) :
        (∃ s', Climb t exec s (h :: hooks) s') ∨ ∃ ahead g behind e s',
          h :: hooks = ahead ++ g :: behind ∧ Fall t exec s ahead g e s' := by
      rcases ih s₁ with ⟨s', hr⟩ | ⟨ahead, g, behind, e, s', rfl, s₂, callback, hr, hfall⟩
      · exact .inl ⟨s', hc.cons hr⟩
      · exact .inr ⟨h :: ahead, g, behind, e, s', rfl, s₂, callback, hc.cons hr, hfall⟩
    cases hcb : h.onStart with
    | none => exact onward (.bare hcb (.nil s))
    | some callback =>
      rcases hi : s.invoke t exec .start h.name callback with ⟨e | ⟨⟩, s₁⟩
      · exact .inr ⟨[], h, hooks, e, s₁, rfl, s, callback, .nil s, hcb, hi⟩
      · exact onward (.ran hcb hi (.nil s₁))

theorem Climb.uncons {s s' : Course κ σ} {h : Hook κ} {hooks : List (Hook κ)}
    (hc : Climb t exec s (h :: hooks) s') :
    ∃ s₁, Climb t exec s [h] s₁ ∧ Climb t exec s₁ hooks s' := by
  cases hc with
  | bare hnone hr => exact ⟨s, .bare hnone (.nil s), hr⟩
  | ran hsome hok hr => exact ⟨_, .ran hsome hok (.nil _), hr⟩

theorem stopOne_lifecycle (l : Lifecycle κ) (r : List Failure × Course κ σ) (h : Hook κ) :
    stopOne t exec (r.1, { r.2 with lifecycle := l }) h =
      ((stopOne t exec r h).1, { (stopOne t exec r h).2 with lifecycle := l }) := by
  unfold stopOne
  cases h.onStop <;> rfl

theorem foldl_stopOne_lifecycle (l : Lifecycle κ) (hooks : List (Hook κ))
    (r : List Failure × Course κ σ) :
    hooks.foldl (stopOne t exec) (r.1, { r.2 with lifecycle := l }) =
      ((hooks.foldl (stopOne t exec) r).1,
        { (hooks.foldl (stopOne t exec) r).2 with lifecycle := l }) := by
  induction hooks generalizing r with
  | nil => rfl
  | cons h hooks ih => rw [List.foldl_cons, List.foldl_cons, stopOne_lifecycle, ih]

theorem surroundings_foldl_stopOne (hooks : List (Hook κ)) (r : List Failure × Course κ σ) :
    (hooks.foldl (stopOne t exec) r).2.surroundings =
      (hooks.filterMap (·.onStop)).foldl (fun v callback ↦ (exec callback v).2)
        r.2.surroundings := by
  induction hooks generalizing r with
  | nil => rfl
  | cons h hooks ih =>
    rw [List.foldl_cons, ih]
    cases hcb : h.onStop <;> simp [stopOne, hcb, invoke]

theorem surroundings_wind (cause : Option Failure) (s : Course κ σ) :
    (s.wind t exec cause).2.surroundings =
      ((s.lifecycle.hooks.take s.lifecycle.started).reverse.filterMap (·.onStop)).foldl
        (fun v callback ↦ (exec callback v).2) s.surroundings :=
  surroundings_foldl_stopOne _ _

end Course

namespace Call

open Course

/-- In that many turns a call gets from one point of its course to another. -/
def Leads (t : Timeouts) (exec : κ → σ → Outcome × σ) (n : Nat) (c : Call κ) (s : Course κ σ)
    (c' : Call κ) (s' : Course κ σ) : Prop :=
  ∀ fuel, c.proceed t exec (n + fuel) s = c'.proceed t exec fuel s'

namespace Leads

variable {t : Timeouts} {exec : κ → σ → Outcome × σ} {n m : Nat} {c c' c'' : Call κ}
  {s s' s'' : Course κ σ} {l : Lifecycle κ}

theorem refl (c : Call κ) (s : Course κ σ) : Leads t exec 0 c s c s := by
  intro fuel
  rw [Nat.zero_add]

theorem trans (h : Leads t exec n c s c' s') (h' : Leads t exec m c' s' c'' s'') :
    Leads t exec (n + m) c s c'' s'' := by
  intro fuel
  rw [Nat.add_assoc, h, h']

theorem step {es : List Event} (h : c.turn s.lifecycle = .step c' l es) :
    Leads t exec 1 c s c' { s with lifecycle := l, events := s.events ++ es } := by
  intro fuel
  rw [Nat.add_comm, proceed]
  simp only [h]

theorem quiet (h : c.turn s.lifecycle = .step c' l []) :
    Leads t exec 1 c s c' { s with lifecycle := l } := by
  have hs : Leads t exec 1 c s c' { s with lifecycle := l, events := s.events ++ [] } := step h
  rwa [List.append_nil] at hs

theorem invoke {next : Call κ} {verb : Verb} {name : String} {callback : κ}
    (h : c.turn s.lifecycle = .invoke next l [heading name verb] verb callback)
    (hr : next.resume (s.invoke t exec verb name callback).1 =
      (c', complaint name verb (s.invoke t exec verb name callback).1)) :
    Leads t exec 1 c s c' { (s.invoke t exec verb name callback).2 with lifecycle := l } := by
  intro fuel
  simp only [Course.invoke] at hr
  rw [Nat.add_comm, proceed]
  simp only [h, hr]
  rfl

theorem runAlone_eq {verb : Verb} {result : Except Error Unit}
    (h : Leads t exec n (.enter verb) s (.done result) s')
    (hn : n ≤ 6 * (s.lifecycle.size + 2)) : runAlone t exec verb s = (some result, s') := by
  obtain ⟨fuel, hfuel⟩ := Nat.exists_eq_add_of_le hn
  have hdone : (Call.done result).proceed t exec fuel s' = (.done result, s') := by
    cases fuel <;> rfl
  rw [runAlone, hfuel, h, hdone]

end Leads

variable (t : Timeouts) (exec : κ → σ → Outcome × σ)

def entries (hooks : List (Hook κ)) : List (String × Option κ) := hooks.map fun h ↦ (h.name, h.onStop)

theorem leads_stopOne (cause : Option Failure) (h : Hook κ) (rest : List (String × Option κ))
    (r : List Failure × Course κ σ) :
    Leads t exec 1 (.unwind cause ((h.name, h.onStop) :: rest) r.1) r.2
      (.unwind cause rest (stopOne t exec r h).1) (stopOne t exec r h).2 := by
  cases hcb : h.onStop with
  | none =>
    simp only [stopOne, hcb]
    exact .quiet rfl
  | some callback =>
    simp only [stopOne, hcb]
    refine .invoke rfl ?_
    cases (r.2.invoke t exec .stop h.name callback).1 <;> simp [resume, complaint, blame]

theorem leads_stops (cause : Option Failure) (hooks : List (Hook κ))
    (r : List Failure × Course κ σ) :
    Leads t exec hooks.length (.unwind cause (entries hooks) r.1) r.2
      (.unwind cause [] (hooks.foldl (stopOne t exec) r).1)
      (hooks.foldl (stopOne t exec) r).2 := by
  induction hooks generalizing r with
  | nil => exact .refl _ _
  | cons h hooks ih =>
    rw [List.length_cons, Nat.add_comm]
    exact (leads_stopOne t exec cause h (entries hooks) r).trans (ih _)

theorem leads_close (cause : Option Failure) (failures : List Failure) (s : Course κ σ) :
    Leads t exec 2 (.unwind cause [] failures) s (.done (verdict cause failures))
      { s with
        lifecycle := s.lifecycle.close
        events := s.events ++ rollbackEvents cause failures } := by
  have rests : Leads t exec 1 (.unwind cause [] failures) s (.close cause failures) s := .quiet rfl
  exact rests.trans (.step rfl)

theorem leads_wind (cause : Option Failure) (s : Course κ σ) :
    ∃ n ≤ s.lifecycle.size + 3, Leads t exec n (.drain cause) s
      (.done (s.wind t exec cause).1) (s.wind t exec cause).2 := by
  have drains : Leads t exec 1 (.drain cause) s
      (.unwind cause (entries (s.lifecycle.hooks.take s.lifecycle.started).reverse) [])
      { s with lifecycle := s.lifecycle.drain.2 } := .quiet rfl
  have stops := leads_stops t exec cause
    (s.lifecycle.hooks.take s.lifecycle.started).reverse
    ([], { s with lifecycle := s.lifecycle.drain.2 })
  have all := drains.trans (stops.trans (leads_close t exec cause _ _))
  rw [foldl_stopOne_lifecycle s.lifecycle.drain.2 _ ([], s)] at all
  refine ⟨_, ?_, all⟩
  simp only [List.length_reverse, List.length_take, size]
  omega

variable {t exec}

theorem leads_enter {hooks : List (Hook κ)} {s : Course κ σ} (hs : s.lifecycle = ⟨hooks, 0, .idle⟩) :
    Leads t exec 1 (.enter .start) s .seek { s with lifecycle := rising [] hooks } := by
  refine .quiet ?_
  rw [hs]
  rfl

theorem resume_starting (name : String) (result : Except HookError Unit) :
    (starting name : Call κ).resume result =
      (((starting name : Call κ).resume result).1, complaint name .start result) := by
  cases result <;> rfl

theorem leads_callback {s s' : Course κ σ} {h : Hook κ} {callback : κ}
    (hcb : h.onStart = some callback) {result : Except HookError Unit}
    (hi : s.invoke t exec .start h.name callback = (result, s')) (done rest : List (Hook κ)) :
    Leads t exec 1 .seek { s with lifecycle := rising done (h :: rest) }
      ((starting h.name : Call κ).resume result).1
      { s' with lifecycle := rising done (disarm h :: rest) } := by
  obtain rfl : (s.invoke t exec .start h.name callback).1 = result := congrArg Prod.fst hi
  obtain rfl : (s.invoke t exec .start h.name callback).2 = s' := congrArg Prod.snd hi
  have hturn : (seek : Call κ).turn (rising done (h :: rest)) =
      .invoke (starting h.name) (rising done (disarm h :: rest)) [heading h.name .start] .start
        callback := by
    simp only [turn, takeStart_rising, hcb]
    rfl
  exact .invoke (s := { s with lifecycle := rising done (h :: rest) }) hturn
    (resume_starting h.name _)

theorem leads_startOne {s s' : Course κ σ} {h : Hook κ} (hc : Climb t exec s [h] s')
    (done rest : List (Hook κ)) :
    Leads t exec 2 .seek { s with lifecycle := rising done (h :: rest) } .seek
      { s' with lifecycle := rising (done ++ [h]) rest } := by
  have counts : Leads t exec 1 .count { s' with lifecycle := rising done (disarm h :: rest) } .seek
      { s' with lifecycle := rising (done ++ [h]) rest } := by
    rw [← countStarted_rising]
    exact .quiet rfl
  refine Leads.trans ?_ counts
  cases hc with
  | bare hnone hnil =>
    cases hnil
    refine .quiet ?_
    simp only [turn, takeStart_rising, hnone]
  | ran hsome hok hnil =>
    cases hnil
    exact leads_callback hsome hok done rest

theorem leads_climb {s s' : Course κ σ} {hooks : List (Hook κ)} (hc : Climb t exec s hooks s')
    (done behind : List (Hook κ)) :
    Leads t exec (2 * hooks.length) .seek { s with lifecycle := rising done (hooks ++ behind) } .seek
      { s' with lifecycle := rising (done ++ hooks) behind } := by
  induction hooks generalizing s done with
  | nil =>
    cases hc
    rw [List.append_nil]
    exact .refl _ _
  | cons h hooks ih =>
    obtain ⟨s₁, hone, hrest⟩ := hc.uncons
    have hall := (leads_startOne hone done (hooks ++ behind)).trans (ih hrest (done ++ [h]))
    rw [List.append_assoc, List.singleton_append] at hall
    rw [List.length_cons, Nat.mul_add, Nat.add_comm]
    exact hall

theorem leads_settle (s : Course κ σ) (done : List (Hook κ)) :
    Leads t exec 2 .seek { s with lifecycle := rising done [] } (.done (.ok ()))
      { s with lifecycle := ⟨done.map disarm, done.length, .running⟩ } := by
  have ends : Leads t exec 1 .seek { s with lifecycle := rising done [] } .settle
      { s with lifecycle := rising done [] } := by
    refine .quiet ?_
    simp [turn, takeStart, rising]
  have settles : (rising done []).settle = ⟨done.map disarm, done.length, .running⟩ := by
    simp [Lifecycle.settle, rising]
  rw [← settles]
  exact ends.trans (.quiet rfl)

end Call

section Calls

variable {t : Timeouts} {exec : κ → σ → Outcome × σ} {s s' : Course κ σ}

theorem runAlone_start_of_climb {hooks : List (Hook κ)} (hs : s.lifecycle = ⟨hooks, 0, .idle⟩)
    (hc : Course.Climb t exec s hooks s') :
    runAlone t exec .start s = (some (.ok ()),
      { s' with lifecycle := ⟨hooks.map disarm, hooks.length, .running⟩ }) := by
  have climbs := Call.leads_climb hc [] []
  rw [List.append_nil, List.nil_append] at climbs
  have all := (Call.leads_enter hs).trans (climbs.trans (Call.leads_settle s' hooks))
  refine all.runAlone_eq ?_
  simp only [hs, size]
  omega

theorem runAlone_start_of_fall {ahead behind : List (Hook κ)} {h : Hook κ} {e : HookError}
    (hs : s.lifecycle = ⟨ahead ++ h :: behind, 0, .idle⟩) (hf : Course.Fall t exec s ahead h e s') :
    runAlone t exec .start s = (some (.error (.start ⟨h.name, e⟩)),
      (Course.wind t exec (some ⟨h.name, e⟩)
        { s' with lifecycle := rising ahead (disarm h :: behind) }).2) := by
  obtain ⟨s₁, callback, hc, hsome, hi⟩ := hf
  have climbs := Call.leads_climb hc [] (h :: behind)
  obtain ⟨n, hn, winds⟩ := Call.leads_wind t exec (some ⟨h.name, e⟩)
    { s' with lifecycle := rising ahead (disarm h :: behind) }
  have all := (Call.leads_enter hs).trans
    (climbs.trans ((Call.leads_callback hsome hi ahead behind).trans winds))
  refine all.runAlone_eq ?_
  simp only [size, rising, List.length_append, List.length_map, List.length_cons] at hn
  simp only [hs, size, List.length_append, List.length_cons]
  omega

theorem runAlone_stop (hs : s.lifecycle.state = .running) :
    runAlone t exec .stop s = (some (s.wind t exec none).1, (s.wind t exec none).2) := by
  obtain ⟨n, hn, winds⟩ := Call.leads_wind t exec none s
  have enters : Call.Leads t exec 1 (.enter .stop) s (.drain none) s := by
    refine .quiet ?_
    simp [Call.turn, enterStop, hs]
  refine (enters.trans winds).runAlone_eq ?_
  omega

theorem runAlone_refused {verb : Verb} (hs : s.lifecycle.state ≠ verb.entry) :
    runAlone t exec verb s = (some (.error (refusal verb s.lifecycle.state)), s) := by
  have turned : Call.Leads t exec 1 (.enter verb) s
      (.done (.error (refusal verb s.lifecycle.state))) s := by
    refine .quiet ?_
    cases verb with
    | start => simp [Call.turn, enterStart, refusal, show s.lifecycle.state ≠ .idle from hs]
    | stop => simp [Call.turn, enterStop, refusal, show s.lifecycle.state ≠ .running from hs]
  exact turned.runAlone_eq (by omega)

end Calls

end Telemetry.Lifecycle
