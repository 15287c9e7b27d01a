import Telemetry.Proofs.Lifecycle.Stages

namespace Telemetry.Lifecycle

variable {κ : Type}

def State.rank : State → Nat
  | idle => 0
  | starting => 1
  | running => 2
  | stopping => 3
  | stopped => 4

def Call.stops : Call κ → Bool
  | drain cause | unwind cause .. | stopping cause .. | close cause _ => cause.isNone
  | _ => false

def numbers (stops : List (String × Option (Nat × κ))) : List Nat :=
  stops.filterMap fun e ↦ e.2.map Prod.fst

/-- The call has yet to run the stop callback of a hook, or waits for it. -/
def Slot.Holds (slot : Slot κ) (n : Nat) : Prop :=
  match slot.call with
  | .unwind _ rest _ => n ∈ numbers rest
  | .stopping _ _ rest _ => slot.job = some n ∨ n ∈ numbers rest
  | _ => False

namespace Scene

variable {s s' : Scene κ}

def StopForm (s : Scene κ) (i : Nat) : Call (Nat × κ) → Prop
  | .enter verb => verb = .stop
  | .done result => .passed i ∈ s.log ∨
    ∃ state, state ≠ .running ∧ result = .error (.notRunning state)
  | call => call.stops = true

/-- What stop calls have done and have yet to do, after every move. -/
structure Served (s : Scene κ) : Prop where
  passed : ∀ (i : Nat) (slot : Slot κ), s.slots[i]? = some slot → slot.call.stops →
    .passed i ∈ s.log
  form : ∀ (i : Nat) (slot : Slot κ), s.slots[i]? = some slot → slot.verb = .stop →
    s.StopForm i slot.call
  pending : ∀ n h, n < s.taken → s.accepted[n]? = some h → h.onStop ≠ none →
    (∃ result, .returned .stop n result ∈ s.log) ∨
      ∃ (i : Nat) (slot : Slot κ), s.slots[i]? = some slot ∧ slot.Holds n

theorem StopForm.mono {i : Nat} {call : Call (Nat × κ)} (h : s.StopForm i call)
    (hl : ∀ note ∈ s.log, note ∈ s'.log) : s'.StopForm i call := by
  cases call with
  | done result => exact h.imp_left (hl _)
  | _ => exact h

theorem Served.start : Served ({} : Scene κ) where
  passed i slot h := by simp at h
  form i slot h := by simp at h
  pending n h hn := by simp at hn

theorem Served.goOn (h : Served s) {i : Nat} {old new : Slot κ} {lifecycle : Lifecycle (Nat × κ)}
    {log : List Note} (hi : s.slots[i]? = some old) (hl : ∀ note ∈ s.log, note ∈ log)
    (hs : new.call.stops → .passed i ∈ log)
    (hf : new.verb = .stop →
      StopForm { s with lifecycle, slots := s.slots.set i new, log } i new.call)
    (hp : ∀ n, old.Holds n → new.Holds n ∨ ∃ result, .returned .stop n result ∈ log) :
    Served { s with lifecycle, slots := s.slots.set i new, log } where
  passed := forall_set hs fun j slot _ hj hstops ↦ hl _ (h.passed j slot hj hstops)
  form := forall_set hf fun j slot _ hj hv ↦ (h.form j slot hj hv).mono hl
  pending n hook hn ha hstop := by
    rcases h.pending n hook hn ha hstop with ⟨result, hr⟩ | ⟨j, slot, hj, hh⟩
    · exact .inl ⟨result, hl _ hr⟩
    · by_cases hij : i = j
      · subst hij
        rw [hi, Option.some_inj] at hj
        subst hj
        refine (hp n hh).symm.imp id fun hn ↦ ⟨i, new, ?_, hn⟩
        exact List.getElem?_set_self (List.getElem?_eq_some_iff.mp hi).1
      · refine .inr ⟨j, slot, ?_, hh⟩
        simpa only [List.getElem?_set_ne hij] using hj

theorem Served.starts (h : Served s) {i : Nat} {old new : Slot κ}
    {lifecycle : Lifecycle (Nat × κ)} {log : List Note} (hi : s.slots[i]? = some old)
    (hl : ∀ note ∈ s.log, note ∈ log) (ho : ¬ s.StopForm i old.call) (hv : new.verb = old.verb)
    (hs : new.call.stops = false) (hh : ∀ n, ¬ old.Holds n) :
    Served { s with lifecycle, slots := s.slots.set i new, log } := by
  refine h.goOn hi hl (fun hstops ↦ ?_) (fun hstop ↦ ?_) fun n hn ↦ absurd hn (hh n)
  · rw [hs] at hstops
    cases hstops
  · exact absurd (h.form i old hi (hv ▸ hstop)) ho

theorem Served.take (h : Served s) (hfit : Fit s) (new : Hook κ)
    (lifecycle : Lifecycle (Nat × κ)) :
    Served { s with lifecycle, accepted := s.accepted ++ [new] } where
  passed := h.passed
  form j slot hj hv := (h.form j slot hj hv).mono fun _ ↦ id
  pending n hook hn ha := by
    have hc := hfit.counted
    have hn : n < s.taken := hn
    simp only [List.getElem?_append_left (show n < s.accepted.length by omega)] at ha
    exact h.pending n hook hn ha

theorem Served.drain (h : Served s) (hfit : Fit s) {i : Nat} {verb : Verb} {job : Option Nat}
    {cause : Option Failure} (hi : s.slots[i]? = some ⟨verb, .drain cause, job, false⟩) :
    Served { s with
      lifecycle := s.lifecycle.drain.2
      slots := s.slots.set i ⟨verb, .unwind cause s.lifecycle.drain.1 [], job, false⟩
      taken := s.taken + min s.lifecycle.started s.lifecycle.hooks.length } := by
  have hlt := (List.getElem?_eq_some_iff.mp hi).1
  have hs := h.passed i _ hi
  have hf := h.form i _ hi
  have now : Served { s with
      lifecycle := s.lifecycle.drain.2
      slots := s.slots.set i ⟨verb, .unwind cause s.lifecycle.drain.1 [], job, false⟩ } :=
    h.goOn hi (fun _ ↦ id) (fun hstops ↦ hs hstops) (fun hv ↦ hf hv) nofun
  refine ⟨now.passed, fun j slot hj hv ↦ (now.form j slot hj hv).mono fun _ ↦ id, ?_⟩
  intro n hook hn ha hstop
  have hn : n < s.taken + min s.lifecycle.started s.lifecycle.hooks.length := hn
  rcases Nat.lt_or_ge n s.taken with hold | hnew
  · exact now.pending n hook hold ha hstop
  · obtain ⟨p, rfl⟩ := Nat.exists_eq_add_of_le hnew
    have hp : p < s.lifecycle.hooks.length := by omega
    obtain ⟨h₀, ha', _, hs, _⟩ := hfit.kept p _ (List.getElem?_eq_getElem hp)
    obtain rfl : h₀ = hook := Option.some_inj.mp (ha'.symm.trans ha)
    obtain ⟨callback, hcb⟩ := Option.ne_none_iff_exists'.mp hstop
    refine .inr ⟨i, _, List.getElem?_set_self hlt, ?_⟩
    refine List.mem_filterMap.mpr ⟨(s.lifecycle.hooks[p].name, s.lifecycle.hooks[p].onStop), ?_, ?_⟩
    · have hmem : s.lifecycle.hooks[p] ∈ s.lifecycle.hooks.take s.lifecycle.started :=
        List.mem_take_iff_getElem.mpr ⟨p, by omega, rfl⟩
      exact List.mem_map.mpr ⟨_, List.mem_reverse.mpr hmem, rfl⟩
    · rw [hs, hcb]
      rfl

theorem Served.step (h : Served s) (hfit : Fit s) {m : Move κ} (hst : Step s m s') :
    Served s' := by
  cases hst with
  | take hs => exact h.take hfit _ _
  | join hs hh => exact h.take hfit _ _
  | make =>
    refine ⟨forall_append (fun _ ↦ nofun) h.passed, forall_append (fun _ ↦ id) h.form,
      fun n hook hn ha hstop ↦ ?_⟩
    refine (h.pending n hook hn ha hstop).imp_right fun ⟨j, slot, hj, hh⟩ ↦ ⟨j, slot, ?_, hh⟩
    rw [List.getElem?_append_left (List.getElem?_eq_some_iff.mp hj).1]
    exact hj
  | start hi _ => exact h.starts hi (fun _ ↦ id) nofun rfl rfl nofun
  | refuse hi he =>
    have hf := h.form _ _ hi
    refine h.goOn hi (fun _ ↦ id) nofun (fun hv ↦ ?_) nofun
    rcases he with ⟨rfl, _⟩ | ⟨_, rfl, hs⟩
    · exact nomatch hf hv
    · exact .inr ⟨_, hs, rfl⟩
  | pass hi _ =>
    exact h.goOn hi (fun _ ↦ List.mem_cons_of_mem _) (fun _ ↦ List.mem_cons_self) (fun _ ↦ rfl)
      nofun
  | reach hi _ => exact h.starts hi (fun _ ↦ id) nofun rfl rfl nofun
  | skip hi _ _ => exact h.starts hi (fun _ ↦ id) nofun rfl rfl nofun
  | invoke hi _ _ => exact h.starts hi (fun _ ↦ List.mem_cons_of_mem _) nofun rfl rfl nofun
  | count hi => exact h.starts hi (fun _ ↦ id) nofun rfl rfl nofun
  | settle hi => exact h.starts hi (fun _ ↦ id) nofun rfl rfl nofun
  | drain hi => exact h.drain hfit hi
  | pop hi =>
    have hs := h.passed _ _ hi
    have hf := h.form _ _ hi
    exact h.goOn hi (fun _ ↦ id) (fun hstops ↦ hs hstops) (fun hv ↦ hf hv) fun n hn ↦ .inl hn
  | @stop i n verb job cause name callback rest failures hi =>
    have hs := h.passed _ _ hi
    have hf := h.form _ _ hi
    refine h.goOn hi (fun _ ↦ List.mem_cons_of_mem _)
      (fun hstops ↦ List.mem_cons_of_mem _ (hs hstops)) (fun hv ↦ hf hv) fun k hk ↦ .inl ?_
    rcases List.mem_cons.mp hk with rfl | hk
    · exact .inl rfl
    · exact .inr hk
  | empty hi =>
    have hs := h.passed _ _ hi
    have hf := h.form _ _ hi
    exact h.goOn hi (fun _ ↦ id) (fun hstops ↦ hs hstops) (fun hv ↦ hf hv) nofun
  | @close i verb job cause failures hi =>
    have hs := h.passed _ _ hi
    have hf := h.form _ _ hi
    exact h.goOn hi (fun _ ↦ id) nofun (fun hv ↦ .inl (hs (hf hv))) nofun
  | begun hi => exact h.starts hi (fun _ ↦ List.mem_cons_of_mem _) nofun rfl rfl nofun
  | failed hi => exact h.starts hi (fun _ ↦ List.mem_cons_of_mem _) nofun rfl rfl nofun
  | @ended i n verb cause name rest failures failures' result hi _ =>
    have hs := h.passed _ _ hi
    have hf := h.form _ _ hi
    refine h.goOn hi (fun _ ↦ List.mem_cons_of_mem _)
      (fun hstops ↦ List.mem_cons_of_mem _ (hs hstops)) (fun hv ↦ hf hv) fun k hk ↦ ?_
    rcases hk with he | hk
    · obtain rfl : n = k := Option.some_inj.mp he
      exact .inr ⟨result, List.mem_cons_self⟩
    · exact .inl hk
  | drop hi _ =>
    have hs := h.passed _ _ hi
    have hf := h.form _ _ hi
    exact h.goOn hi (fun _ ↦ id) (fun hstops ↦ hs hstops) (fun hv ↦ hf hv) fun n hn ↦ .inl hn

theorem served_run (ms : List (Move κ)) : Served (run ms) :=
  run_induction ms .start fun before _ _ _ h hst ↦ h.step (fit_run before) hst

def Draining (s : Scene κ) (i : Nat) : Prop :=
  ∃ slot, s.slots[i]? = some slot ∧ slot.call = .drain none

def Passing (s : Scene κ) (i : Nat) : Prop :=
  s.lifecycle.state = .running ∧ ∃ verb job, s.slots[i]? = some ⟨verb, .enter .stop, job, false⟩

/-- A stop call is let in while another one has yet to take the hooks out. -/
def Overlap (ms : List (Move κ)) : Prop :=
  ∃ before i j after, ms = before ++ .turn j :: after ∧ (run before).Passing j ∧
    (run before).Draining i

/-- What holds after every move as long as no two stop calls overlap. -/
structure Sole (s : Scene κ) : Prop where
  alone : Alone Call.closing s.slots
  early : s.lifecycle.state = .idle ∨ s.lifecycle.state = .starting → ∀ i, .passed i ∉ s.log
  draining : s.lifecycle.state = .running → ∀ i, .passed i ∈ s.log → s.Draining i
  once : ∀ i j, .passed i ∈ s.log → .passed j ∈ s.log → i = j
  halted : s.lifecycle.state = .stopped → ∀ (i : Nat) (slot : Slot κ), s.slots[i]? = some slot →
    slot.call.closing = false
  ended : ∀ (i : Nat) (slot : Slot κ), s.slots[i]? = some slot → slot.verb = .stop →
    slot.call = .done (.ok ()) → s.lifecycle.state = .stopped

/-- One stop call is let in and the others are told the state, and nothing that has been taken out
is left to be waited for when the lifecycle has stopped. -/
structure Orderly (s : Scene κ) : Prop where
  once : ∀ i j, .passed i ∈ s.log → .passed j ∈ s.log → i = j
  rejected : ∀ (i : Nat) (slot : Slot κ) (result : Except Error Unit), s.slots[i]? = some slot →
    slot.verb = .stop → slot.call = .done result → .passed i ∉ s.log →
    ∃ state, state ≠ .running ∧ result = .error (.notRunning state)
  returned : s.lifecycle.state = .stopped → ∀ n h, n < s.taken → s.accepted[n]? = some h →
    h.onStop ≠ none → ∃ result, .returned .stop n result ∈ s.log
  quiet : ∀ (i : Nat) (slot : Slot κ), s.slots[i]? = some slot → slot.verb = .stop →
    slot.call = .done (.ok ()) → ∀ (j : Nat) (other : Slot κ), s.slots[j]? = some other →
    other.call.awaited ≠ some .stop

def Forward (ms : List (Move κ)) : Prop :=
  ∀ first second third, ms = first ++ second ++ third →
    (run first).lifecycle.state.rank ≤ (run (first ++ second)).lifecycle.state.rank

variable {i : Nat} {verb : Verb} {job : Option Nat} {cause : Option Failure}

theorem Sole.start : Sole ({} : Scene κ) where
  alone i j a b hi := by simp at hi
  early _ i := by simp
  draining h := by cases h
  once i j h := by simp at h
  halted h := by cases h
  ended i slot hi := by simp at hi

theorem Sole.goOn (h : Sole s) {i : Nat} {old new : Slot κ} {lifecycle : Lifecycle (Nat × κ)}
    {log : List Note} (hi : s.slots[i]? = some old) (hs : lifecycle.state = s.lifecycle.state)
    (hl : ∀ j, .passed j ∈ log → .passed j ∈ s.log) (hc : new.call.closing → old.call.closing)
    (hd : old.call ≠ .drain none) (hn : new.call ≠ .done (.ok ())) :
    Sole { s with lifecycle, slots := s.slots.set i new, log } where
  alone := h.alone.set hi hc
  early he j hj := by
    rw [hs] at he
    exact h.early he j (hl j hj)
  draining hr j hj := by
    rw [hs] at hr
    obtain ⟨slot, hslot, hcall⟩ := h.draining hr j (hl j hj)
    have hij : i ≠ j := by
      rintro rfl
      obtain rfl : old = slot := Option.some_inj.mp (hi.symm.trans hslot)
      exact hd hcall
    exact ⟨slot, by simpa only [List.getElem?_set_ne hij] using hslot, hcall⟩
  once j k hj hk := h.once j k (hl j hj) (hl k hk)
  halted ho := by
    rw [hs] at ho
    refine forall_set (Bool.eq_false_iff.mpr fun hnew ↦ ?_) fun j slot _ hj ↦ h.halted ho j slot hj
    have hold := hc hnew
    rw [h.halted ho i old hi] at hold
    cases hold
  ended := by
    rw [hs]
    exact forall_set (fun _ he ↦ absurd he hn) fun j slot _ hj ↦ h.ended j slot hj

theorem Sole.pass (h : Sole s) (hfit : Fit s)
    (hi : s.slots[i]? = some ⟨verb, .enter .stop, job, false⟩) (hs : s.lifecycle.state = .running)
    (ho : ∀ j, ¬ s.Draining j) :
    Sole { s with
      slots := s.slots.set i ⟨verb, .drain none, job, false⟩
      log := .passed i :: s.log } := by
  have none_passed (j : Nat) : .passed j ∉ s.log := fun hj ↦ ho j (h.draining hs j hj)
  have only (j : Nat) (hj : .passed j ∈ Note.passed i :: s.log) : j = i := by
    rcases List.mem_cons.mp hj with he | hj
    · exact Note.passed.inj he
    · exact absurd hj (none_passed j)
  refine ⟨.of_others fun j slot _ hj ↦ ?_, ?_, fun _ j hj ↦ ?_, fun j k hj hk ↦ ?_, ?_, ?_⟩
  · have hf := hfit.fits j slot hj
    have hd := ho j
    obtain ⟨verb, call, job, dropped⟩ := slot
    refine Bool.eq_false_iff.mpr fun hc ↦ ?_
    cases call with
    | drain cause => cases cause with
      | none => exact hd ⟨_, hj, rfl⟩
      | some f => cases hc
    | _ => simp_all [Fits, Over, Call.closing]
  · simp [hs]
  · obtain rfl := only j hj
    exact ⟨_, List.getElem?_set_self (List.getElem?_eq_some_iff.mp hi).1, rfl⟩
  · rw [only j hj, only k hk]
  · simp [hs]
  · have hst : s.lifecycle.state ≠ .stopped := by simp [hs]
    exact forall_set (by simp) fun j slot _ hj hv he ↦ absurd (h.ended j slot hj hv he) hst

theorem Sole.not_stopped (h : Sole s) (hfit : Fit s)
    (hi : s.slots[i]? = some ⟨verb, .drain cause, job, false⟩) : s.lifecycle.state ≠ .stopped := by
  intro ho
  have hf := hfit.fits i _ hi
  have hc := h.halted ho i _ hi
  cases cause with
  | none => cases hc
  | some f => exact nomatch ho.symm.trans hf

theorem Sole.drain (h : Sole s) (hfit : Fit s)
    (hi : s.slots[i]? = some ⟨verb, .drain cause, job, false⟩) :
    Sole { s with
      lifecycle := s.lifecycle.drain.2
      slots := s.slots.set i ⟨verb, .unwind cause s.lifecycle.drain.1 [], job, false⟩
      taken := s.taken + min s.lifecycle.started s.lifecycle.hooks.length } where
  alone := by
    cases cause with
    | none => exact h.alone.set hi fun _ ↦ rfl
    | some f =>
      refine .of_others fun j slot hij hj ↦ ?_
      have hin := hfit.inactive_of_starting (hfit.fits i _ hi) hi rfl hij hj
      obtain ⟨verb, call, job, dropped⟩ := slot
      cases call <;> first | rfl | cases hin
  early := nofun
  draining := nofun
  once := h.once
  halted := nofun
  ended := forall_set nofun fun j slot _ hj hv he ↦
    absurd (h.ended j slot hj hv he) (h.not_stopped hfit hi)

theorem Sole.close (h : Sole s) {failures : List Failure}
    (hi : s.slots[i]? = some ⟨verb, .close cause failures, job, false⟩) :
    Sole { s with
      lifecycle := s.lifecycle.close
      slots := s.slots.set i ⟨verb, .done (Call.verdict cause failures), job, false⟩ } where
  alone := h.alone.set hi nofun
  early := nofun
  draining := nofun
  once := h.once
  halted _ := forall_set rfl fun _ _ hij hj ↦ h.alone.eq_false hi rfl hij hj
  ended _ _ _ _ _ := rfl

theorem Sole.settle (h : Sole s) (hserved : Served s) (hfit : Fit s)
    (hi : s.slots[i]? = some ⟨verb, .settle, job, false⟩) :
    Sole { s with
      lifecycle := s.lifecycle.settle
      slots := s.slots.set i ⟨verb, .done (.ok ()), job, false⟩ } := by
  have hs : s.lifecycle.state = .starting := hfit.fits i _ hi
  have hst : s.lifecycle.state ≠ .stopped := by simp [hs]
  refine ⟨h.alone.set hi nofun, nofun, fun _ j hj ↦ ?_, h.once, nofun, ?_⟩
  · exact absurd hj (h.early (.inr hs) j)
  · refine forall_set (fun hv ↦ ?_) fun j slot _ hj hv he ↦ absurd (h.ended j slot hj hv he) hst
    exact nomatch hserved.form i _ hi hv

theorem Sole.step (h : Sole s) (hserved : Served s) (hfit : Fit s) {m : Move κ} (hst : Step s m s')
    (hm : ∀ j, m = .turn j → s.Passing j → ∀ i, ¬ s.Draining i) : Sole s' := by
  cases hst with
  | take hs => exact ⟨h.alone, h.early, h.draining, h.once, h.halted, h.ended⟩
  | join hs hh => exact ⟨h.alone, h.early, h.draining, h.once, h.halted, h.ended⟩
  | make =>
    refine ⟨h.alone.append rfl, h.early, fun hr i hi ↦ ?_, h.once,
      fun ho ↦ forall_append (fun _ ↦ rfl) (h.halted ho), forall_append (fun _ ↦ nofun) h.ended⟩
    obtain ⟨slot, hslot, hc⟩ := h.draining hr i hi
    refine ⟨slot, ?_, hc⟩
    rw [List.getElem?_append_left (List.getElem?_eq_some_iff.mp hslot).1]
    exact hslot
  | start hi hs =>
    have hst : s.lifecycle.state ≠ .stopped := by simp [hs]
    exact ⟨h.alone.set hi nofun, fun _ ↦ h.early (.inl hs), nofun, h.once, nofun,
      forall_set nofun fun j slot _ hj hv he ↦ absurd (h.ended j slot hj hv he) hst⟩
  | refuse hi _ => exact h.goOn hi rfl (fun _ ↦ id) nofun nofun nofun
  | pass hi hs => exact h.pass hfit hi hs (hm _ rfl ⟨hs, _, _, hi⟩)
  | reach hi _ => exact h.goOn hi rfl (fun _ ↦ id) nofun nofun nofun
  | skip hi _ _ => exact h.goOn hi rfl (fun _ ↦ id) nofun nofun nofun
  | invoke hi _ _ => exact h.goOn hi rfl (fun _ hj ↦ by simpa using hj) nofun nofun nofun
  | count hi => exact h.goOn hi rfl (fun _ ↦ id) nofun nofun nofun
  | settle hi => exact h.settle hserved hfit hi
  | drain hi => exact h.drain hfit hi
  | pop hi => exact h.goOn hi rfl (fun _ ↦ id) (fun _ ↦ rfl) nofun nofun
  | stop hi => exact h.goOn hi rfl (fun _ hj ↦ by simpa using hj) (fun _ ↦ rfl) nofun nofun
  | empty hi => exact h.goOn hi rfl (fun _ ↦ id) (fun _ ↦ rfl) nofun nofun
  | close hi => exact h.close hi
  | begun hi => exact h.goOn hi rfl (fun _ hj ↦ by simpa using hj) nofun nofun nofun
  | failed hi => exact h.goOn hi rfl (fun _ hj ↦ by simpa using hj) nofun nofun nofun
  | ended hi _ => exact h.goOn hi rfl (fun _ hj ↦ by simpa using hj) (fun _ ↦ rfl) nofun nofun
  | @drop i slot hi hw =>
    refine h.goOn hi rfl (fun _ ↦ id) (fun hc ↦ hc) (fun he ↦ ?_) fun he ↦ ?_
    · rw [he] at hw
      cases hw
    · rw [show slot.call = _ from he] at hw
      cases hw

theorem Sole.rank_le (h : Sole s) (hfit : Fit s) {m : Move κ} (hst : Step s m s') :
    s.lifecycle.state.rank ≤ s'.lifecycle.state.rank := by
  cases hst with
  | start hi hs => simp [hs, State.rank]
  | settle hi =>
    have hs : s.lifecycle.state = .starting := hfit.fits _ _ hi
    simp [hs, Lifecycle.settle, State.rank]
  | drain hi =>
    have hn := h.not_stopped hfit hi
    cases hs : s.lifecycle.state with
    | stopped => exact absurd hs hn
    | _ => simp [Lifecycle.drain, State.rank]
  | close hi => cases s.lifecycle.state <;> simp [Lifecycle.close, State.rank]
  | _ => exact Nat.le_refl _

theorem Overlap.of_prefix {first ms : List (Move κ)} (h : Overlap first) (hp : first <+: ms) :
    Overlap ms := by
  obtain ⟨rest, rfl⟩ := hp
  obtain ⟨before, i, j, after, rfl, hpass, hd⟩ := h
  exact ⟨before, i, j, after ++ rest, by simp, hpass, hd⟩

theorem sole_run {ms : List (Move κ)} (h : ¬ Overlap ms) : Sole (run ms) := by
  refine run_induction ms .start fun before m s' hp hsole hst ↦ ?_
  refine hsole.step (served_run before) (fit_run before) hst fun j hm hpass i hd ↦ ?_
  have hover : Overlap (before ++ [m]) := ⟨before, i, j, [], by rw [hm], hpass, hd⟩
  exact h (hover.of_prefix hp)

theorem Sole.orderly (h : Sole s) (hserved : Served s) : Orderly s where
  once := h.once
  rejected i slot result hi hv hc hp := by
    have hf := hserved.form i slot hi hv
    rw [hc] at hf
    exact hf.resolve_left hp
  returned ho n hook hn ha hstop := by
    refine (hserved.pending n hook hn ha hstop).resolve_right ?_
    rintro ⟨i, slot, hi, hh⟩
    have hc := h.halted ho i slot hi
    obtain ⟨verb, call, job, dropped⟩ := slot
    cases call with
    | unwind | stopping => cases hc
    | _ => exact hh
  quiet i slot hi hv hc j other hj := by
    have hover := h.halted (h.ended i slot hi hv hc) j other hj
    obtain ⟨verb, call, job, dropped⟩ := other
    cases call with
    | stopping => cases hover
    | _ => exact nofun

theorem forward_of_no_overlap {ms : List (Move κ)} (h : ¬ Overlap ms) : Forward ms := by
  rintro first second third rfl
  have hpre : ¬ Overlap (first ++ second) := fun ho ↦ h (ho.of_prefix (List.prefix_append _ _))
  clear h
  induction second using List.reverseRecOn with
  | nil => simp
  | append_singleton second m ih =>
    rw [← List.append_assoc] at hpre ⊢
    have hbefore : ¬ Overlap (first ++ second) := fun ho ↦
      hpre (ho.of_prefix (List.prefix_append _ _))
    refine Nat.le_trans (ih hbefore) ?_
    rw [run_concat]
    rcases (run (first ++ second)).act_cases m with he | hst
    · exact Nat.le_of_eq (by rw [he])
    · exact (sole_run hbefore).rank_le (fit_run _) hst

theorem Overlap.passed_twice {ms : List (Move κ)} (h : Overlap ms) :
    ∃ first, first <+: ms ∧ ∃ i j, i ≠ j ∧ .passed i ∈ (run first).log ∧
      .passed j ∈ (run first).log := by
  obtain ⟨before, i, j, after, rfl, ⟨hs, verb, job, hj⟩, slot, hi, hc⟩ := h
  have hpassed := (served_run before).passed i slot hi (by rw [hc]; rfl)
  have hij : i ≠ j := by
    rintro rfl
    obtain rfl := Option.some_inj.mp (hi.symm.trans hj)
    cases hc
  have hlog : (run (before ++ [.turn j])).log = .passed j :: (run before).log := by
    rw [run_concat]
    simp [act, turn, Call.turn, enterStop, passing, hj, hs]
  refine ⟨before ++ [.turn j], ⟨after, by simp⟩, i, j, hij, ?_, ?_⟩
  · rw [hlog]
    exact List.mem_cons_of_mem _ hpassed
  · rw [hlog]
    exact List.mem_cons_self

theorem orderly_of_no_overlap {ms first : List (Move κ)} (h : ¬ Overlap ms) (hp : first <+: ms) :
    Orderly (run first) :=
  (sole_run fun ho ↦ h (ho.of_prefix hp)).orderly (served_run first)

theorem Cooperative.no_overlap {ms : List (Move κ)} (h : Cooperative ms) : ¬ Overlap ms := by
  rintro ⟨before, i, j, after, rfl, ⟨_, verb, job, hj⟩, slot, hi, hc⟩
  have hm := h before _ _ rfl i slot hi (by rw [hc]; rfl) (by rw [hc]; rfl)
  obtain rfl : j = i := Move.turn.inj hm
  obtain rfl := Option.some_inj.mp (hi.symm.trans hj)
  cases hc

theorem Cooperative.orderly {ms first : List (Move κ)} (h : Cooperative ms) (hp : first <+: ms) :
    Orderly (run first) := orderly_of_no_overlap h.no_overlap hp

/-- All along a schedule one stop call at most is let in, the lifecycle goes through its states in
one direction, and no stop callback is under way once it has stopped, just when no stop call is let
in between the moment at which another one finds the lifecycle running and the moment at which that
one takes the hooks out. -/
theorem orderly_iff_no_overlap (ms : List (Move κ)) :
    ((∀ first, first <+: ms → Orderly (run first)) ∧ Forward ms) ↔ ¬ Overlap ms := by
  constructor
  · rintro ⟨h, _⟩ ho
    obtain ⟨first, hp, i, j, hij, hi, hj⟩ := ho.passed_twice
    exact hij ((h first hp).once i j hi hj)
  · exact fun h ↦ ⟨fun first hp ↦ orderly_of_no_overlap h hp, forward_of_no_overlap h⟩

/-- A hook with a stop callback in a running lifecycle, and three stop calls that are all let in. The
first one waits for the callback when the second one is through. -/
def crowd : List (Move Unit) :=
  [.append ⟨"slow", none, some ()⟩, .make .start, .turn 0, .turn 0, .turn 0, .turn 0, .turn 0,
    .make .stop, .make .stop, .make .stop, .turn 1, .turn 2, .turn 3, .turn 1, .turn 1,
    .turn 2, .turn 2, .turn 2]

/-- The second call reports that all has stopped although a stop callback is under way, and the third
one takes the lifecycle back to an earlier state. -/
theorem crowd_not_orderly :
    ((run crowd).slots.map fun slot ↦ slot.call.awaited) = [none, some .stop, none, none] ∧
    (run crowd).lifecycle.state = .stopped ∧
    (run crowd).log = [.invoked .stop 0, .passed 3, .passed 2, .passed 1] ∧
    (∃ slot, (run crowd).slots[2]? = some slot ∧ slot.call = .done (.ok ())) ∧
    (run (crowd ++ [.turn 3])).lifecycle.state = .stopping ∧
    ¬ Orderly (run crowd) ∧ ¬ Forward (crowd ++ [.turn 3]) := by
  have hlog : (run crowd).log = [.invoked .stop 0, .passed 3, .passed 2, .passed 1] := rfl
  have back : (run (crowd ++ [.turn 3])).lifecycle.state = .stopping := rfl
  refine ⟨rfl, rfl, hlog, ⟨_, rfl, rfl⟩, back, fun h ↦ ?_, fun h ↦ ?_⟩
  · exact nomatch h.once 3 2 (by simp [hlog]) (by simp [hlog])
  · have hrank := h crowd [.turn 3] [] rfl
    rw [back] at hrank
    exact nomatch hrank

end Scene

end Telemetry.Lifecycle
