import Telemetry.Proofs.Lifecycle.Callback
import Telemetry.Proofs.Lifecycle.Endings
import Telemetry.Proofs.Lifecycle.Prefix

namespace Telemetry.Lifecycle

variable {κ : Type}

def Verb.during : Verb → State
  | start => .starting
  | stop => .stopping

namespace Call

def stage? : Call κ → Option State
  | enter _ | done _ => none
  | seek | starting _ | count | settle | drain (some _) => some .starting
  | drain none => some .running
  | unwind .. | stopping .. | close .. => some .stopping

theorem stage?_of_inactive {call : Call κ} (h : call.active = false) : call.stage? = none := by
  cases call <;> first | rfl | cases h

theorem stage?_of_awaited {call : Call κ} {verb : Verb} (h : call.awaited = some verb) :
    call.stage? = some verb.during := by
  cases call <;> cases h <;> rfl

theorem active_of_awaited {call : Call κ} (h : call.awaited.isSome) : call.active = true := by
  cases call <;> first | rfl | cases h

end Call

def Move.turns? : Move κ → Option Nat
  | turn i => some i
  | append _ | make _ | finish .. | drop _ => none

theorem Move.turns?_eq_some_iff {m : Move κ} {i : Nat} : m.turns? = some i ↔ m = .turn i := by
  cases m <;> simp [turns?]

namespace Scene

variable {s s' : Scene κ} {slot : Slot κ} {i : Nat}

section SingleThread

def busy (s : Scene κ) : List Nat :=
  (s.slots.zipIdx.filter fun p ↦ p.1.call.active && p.1.call.awaited.isNone).map Prod.snd

theorem mem_busy_iff : i ∈ s.busy ↔
    ∃ slot, s.slots[i]? = some slot ∧ slot.call.active ∧ slot.call.awaited = none := by
  simp only [busy, List.mem_map, List.mem_filter, Prod.exists, List.mk_mem_zipIdx_iff_getElem?,
    Bool.and_eq_true, Option.isNone_iff_eq_none]
  constructor
  · rintro ⟨slot, j, ⟨hj, ha, hw⟩, rfl⟩
    exact ⟨slot, hj, ha, hw⟩
  · rintro ⟨slot, hi, ha, hw⟩
    exact ⟨slot, i, ⟨hi, ha, hw⟩, rfl⟩

theorem cooperative_iff {ms : List (Move κ)} : Cooperative ms ↔
    ∀ n < ms.length, ∀ i ∈ (run (ms.take n)).busy, (ms[n]? >>= Move.turns?) = some i := by
  constructor
  · intro h n hn i hi
    obtain ⟨slot, hslot, ha, hw⟩ := mem_busy_iff.mp hi
    have hsplit : ms = ms.take n ++ ms[n] :: ms.drop (n + 1) := by
      rw [List.getElem_cons_drop, List.take_append_drop]
    rw [List.getElem?_eq_getElem hn]
    exact Move.turns?_eq_some_iff.mpr (h _ _ _ hsplit i slot hslot ha hw)
  · rintro h before m after rfl i slot hi ha hw
    have hbusy : i ∈ (run ((before ++ m :: after).take before.length)).busy := by
      rw [List.take_left]
      exact mem_busy_iff.mpr ⟨slot, hi, ha, hw⟩
    have hm := h before.length (by simp) i hbusy
    rw [List.getElem?_append_right (Nat.le_refl _), Nat.sub_self] at hm
    exact Move.turns?_eq_some_iff.mp hm

instance (ms : List (Move κ)) : Decidable (Cooperative ms) :=
  decidable_of_iff _ cooperative_iff.symm

structure Solo (s : Scene κ) : Prop where
  alone : Alone Call.active s.slots
  staged : ∀ (i : Nat) (slot : Slot κ), s.slots[i]? = some slot → ∀ state,
    slot.call.stage? = some state → s.lifecycle.state = state
  parked : ∀ (i : Nat) (slot : Slot κ), s.slots[i]? = some slot → slot.dropped →
    slot.call.awaited.isSome

theorem Solo.start : Solo ({} : Scene κ) where
  alone i j a b hi := by simp at hi
  staged i slot hi := by simp at hi
  parked i slot hi := by simp at hi

theorem Solo.set (h : Solo s) {new : Slot κ} {lifecycle : Lifecycle (Nat × κ)} {taken : Nat}
    {log : List Note}
    (ho : ∀ (j : Nat) (slot : Slot κ), j ≠ i → s.slots[j]? = some slot → slot.call.active = false)
    (hs : ∀ state, new.call.stage? = some state → lifecycle.state = state)
    (hp : new.dropped → new.call.awaited.isSome) :
    Solo { s with lifecycle, slots := s.slots.set i new, taken, log } where
  alone := .of_others ho
  staged := by
    refine forall_set hs fun j slot hij hj state hst ↦ ?_
    rw [Call.stage?_of_inactive (ho j slot hij hj)] at hst
    cases hst
  parked := forall_set hp fun j slot _ hj ↦ h.parked j slot hj

theorem Solo.goOn (h : Solo s) {old new : Slot κ} {lifecycle : Lifecycle (Nat × κ)} {taken : Nat}
    {log : List Note} (hi : s.slots[i]? = some old) (ha : old.call.active = true)
    (hs : ∀ state, new.call.stage? = some state → lifecycle.state = state)
    (hp : new.dropped → new.call.awaited.isSome) :
    Solo { s with lifecycle, slots := s.slots.set i new, taken, log } :=
  h.set (fun _ _ hij hj ↦ h.alone.eq_false hi ha hij hj) hs hp

theorem Solo.drains (h : Solo s) (hi : s.slots[i]? = some slot) (ha : slot.call.active = true)
    (hs : s.lifecycle.state = .idle ∨ s.lifecycle.state = .running) : slot.call = .drain none := by
  have hstage := h.staged i slot hi
  obtain ⟨verb, call, job, dropped⟩ := slot
  have off {state : State} (he : s.lifecycle.state = state)
      (hn : state ≠ .idle ∧ state ≠ .running) : False := by
    rcases hs with hs | hs
    · exact hn.1 (he.symm.trans hs)
    · exact hn.2 (he.symm.trans hs)
  cases call with
  | enter | done => cases ha
  | seek | starting | count | settle | unwind | stopping | close =>
    exact (off (hstage _ rfl) (by decide)).elim
  | drain cause => cases cause with
    | none => rfl
    | some f => exact (off (hstage _ rfl) (by decide)).elim

theorem Solo.step (h : Solo s) {m : Move κ} (hst : Step s m s')
    (hm : ∀ (i : Nat) (slot : Slot κ), s.slots[i]? = some slot → slot.call.active →
      slot.call.awaited = none → m = .turn i) : Solo s' := by
  cases hst with
  | take | join => exact ⟨h.alone, h.staged, h.parked⟩
  | make =>
    exact ⟨h.alone.append rfl, forall_append (fun _ ↦ nofun) h.staged,
      forall_append (fun _ ↦ nofun) h.parked⟩
  | start hi hs =>
    refine h.set (fun j slot _ hj ↦ Bool.eq_false_iff.mpr fun ha ↦ ?_)
      (fun _ hst ↦ Option.some_inj.mp hst) nofun
    have hc := h.drains hj ha (.inl hs)
    have hr : s.lifecycle.state = .running := h.staged j slot hj _ (by rw [hc]; rfl)
    rw [hs] at hr
    cases hr
  | refuse hi _ =>
    exact ⟨h.alone.set hi nofun, forall_set nofun fun j slot _ hj ↦ h.staged j slot hj,
      forall_set nofun fun j slot _ hj ↦ h.parked j slot hj⟩
  | @pass i _ _ hi hs =>
    refine h.set (fun j slot hij hj ↦ Bool.eq_false_iff.mpr fun ha ↦ ?_)
      (fun _ hst ↦ hs.trans (Option.some_inj.mp hst)) nofun
    have hc := h.drains hj ha (.inr hs)
    have hturn := hm j slot hj ha (by rw [hc]; rfl)
    exact hij (Move.turn.inj hturn).symm
  | reach hi | skip hi | invoke hi | count hi | pop hi | stop hi | empty hi | begun hi | failed hi
  | ended hi => exact h.goOn hi rfl (fun state hst ↦ h.staged _ _ hi state hst) nofun
  | settle hi | close hi => exact h.goOn hi rfl nofun nofun
  | drain hi => exact h.goOn hi rfl (fun _ hst ↦ Option.some_inj.mp hst) nofun
  | drop hi hw =>
    exact h.goOn hi (Call.active_of_awaited hw) (fun state hst ↦ h.staged _ _ hi state hst)
      fun _ ↦ hw

theorem solo_run {ms : List (Move κ)} (h : Cooperative ms) : Solo (run ms) := by
  refine run_induction ms .start fun before m s' hp hsolo hst ↦ ?_
  obtain ⟨after, rfl⟩ := hp
  refine hsolo.step hst fun i slot hi ha hw ↦ ?_
  exact h before m after (by simp) i slot hi ha hw

end SingleThread

def Ahead (s : Scene κ) (j : Nat) : Prop :=
  ∀ slot, s.slots[j]? = some slot → slot.call = .enter slot.verb

/-- What is true from the moment on, at which the scene was `first`, when a call is given up that
waits for a callback of this kind. -/
structure Stuck (first : Scene κ) (verb : Verb) (i : Nat) (s : Scene κ) : Prop where
  state : s.lifecycle.state = verb.during
  parked : ∃ slot, s.slots[i]? = some slot ∧ slot.dropped = true ∧ slot.call.awaited = some verb
  others : ∀ (j : Nat) (slot : Slot κ), s.slots[j]? = some slot → j ≠ i →
    slot.call.active = false ∧ slot.dropped = false
  refused : ∀ (j : Nat) (slot : Slot κ), s.slots[j]? = some slot → first.Ahead j →
    slot.call = .enter slot.verb ∨ slot.call = .done (.error (refusal slot.verb verb.during))
  silent : s.invocations = first.invocations

variable {first : Scene κ} {verb : Verb}

theorem Solo.stuck (h : Solo s) (hi : s.slots[i]? = some slot)
    (hw : slot.call.awaited = some verb) : Stuck s verb i (s.act (.drop i)) := by
  have hact : s.act (.drop i) =
      { s with slots := s.slots.set i { slot with dropped := true } } := by
    simp [act, hi, hw]
  have ha : slot.call.active = true := Call.active_of_awaited (by rw [hw]; rfl)
  rw [hact]
  refine ⟨h.staged i slot hi _ (Call.stage?_of_awaited hw),
    ⟨{ slot with dropped := true }, ?_, rfl, hw⟩, ?_, ?_, rfl⟩
  · exact List.getElem?_set_self (List.getElem?_eq_some_iff.mp hi).1
  · refine forall_set (fun hne ↦ absurd rfl hne) fun j other hij hj _ ↦ ?_
    have hin := h.alone.eq_false hi ha hij hj
    refine ⟨hin, Bool.eq_false_iff.mpr fun hd ↦ ?_⟩
    rw [Call.active_of_awaited (h.parked j other hj hd)] at hin
    cases hin
  · refine forall_set (fun hahead ↦ ?_) fun j other _ hj hahead ↦ .inl (hahead other hj)
    rw [hahead slot hi] at hw
    cases hw

theorem Stuck.rests (h : Stuck first verb i s) {j : Nat} (hj : s.slots[j]? = some slot)
    (hd : slot.dropped = false) : j ≠ i ∧ slot.call.active = false := by
  have hij : j ≠ i := by
    rintro rfl
    obtain ⟨given, hg, hdropped, _⟩ := h.parked
    obtain rfl := Option.some_inj.mp (hg.symm.trans hj)
    rw [hd] at hdropped
    cases hdropped
  exact ⟨hij, (h.others j slot hj hij).1⟩

theorem Stuck.step_cases (h : Stuck first verb i s) {m : Move κ} (hst : Step s m s') :
    (∃ hook, m = .append hook ∧ s'.lifecycle.state = s.lifecycle.state ∧ s'.slots = s.slots ∧
      s'.log = s.log) ∨
    (∃ asked, m = .make asked ∧
      s' = { s with slots := s.slots ++ [{ verb := asked, call := .enter asked }] }) ∨
    (∃ j asked entered job, j ≠ i ∧ m = .turn j ∧
      s.slots[j]? = some ⟨asked, .enter entered, job, false⟩ ∧
      s' = { s with
        slots := s.slots.set j
          ⟨asked, .done (.error (refusal entered verb.during)), job, false⟩ }) ∨
    (m = .drop i ∧ s' = s) := by
  have hs := h.state
  cases hst with
  | take => exact .inl ⟨_, rfl, rfl, rfl, rfl⟩
  | join => exact .inl ⟨_, rfl, rfl, rfl, rfl⟩
  | make => exact .inr (.inl ⟨_, rfl, rfl⟩)
  | start hi hidle => cases verb <;> rw [hs] at hidle <;> cases hidle
  | pass hi hrun => cases verb <;> rw [hs] at hrun <;> cases hrun
  | refuse hi he =>
    refine .inr (.inr (.inl ⟨_, _, _, _, (h.rests hi rfl).1, rfl, hi, ?_⟩))
    rcases he with ⟨rfl, rfl, _⟩ | ⟨rfl, rfl, _⟩
    · rfl
    · rw [hs]
      rfl
  | reach hi | skip hi | invoke hi | count hi | settle hi | drain hi | pop hi | stop hi | empty hi
  | close hi | begun hi | failed hi | ended hi => exact nomatch (h.rests hi rfl).2
  | @drop j slot hj hw =>
    by_cases hij : j = i
    · subst hij
      obtain ⟨given, hg, hd, _⟩ := h.parked
      obtain rfl := Option.some_inj.mp (hg.symm.trans hj)
      obtain ⟨hlt, he⟩ := List.getElem?_eq_some_iff.mp hg
      refine .inr (.inr (.inr ⟨rfl, ?_⟩))
      have same : ({ given with dropped := true } : Slot κ) = s.slots[j] := by rw [he, ← hd]
      rw [same, List.set_getElem_self]
    · have hin := (h.others j slot hj hij).1
      rw [Call.active_of_awaited hw] at hin
      cases hin

theorem Stuck.step (h : Stuck first verb i s) {m : Move κ} (hst : Step s m s') :
    Stuck first verb i s' := by
  obtain ⟨given, hg, hgiven⟩ := h.parked
  rcases h.step_cases hst with ⟨_, _, hstate, hslots, hlog⟩ | ⟨asked, _, rfl⟩ |
    ⟨j, asked, entered, job, hij, _, hj, rfl⟩ | ⟨_, rfl⟩
  · refine ⟨hstate.trans h.state, ?_, ?_, ?_, ?_⟩
    · rw [hslots]
      exact h.parked
    · rw [hslots]
      exact h.others
    · rw [hslots]
      exact h.refused
    · rw [invocations, hlog]
      exact h.silent
  · refine ⟨h.state, ⟨given, ?_, hgiven⟩, ?_, ?_, h.silent⟩
    · rw [List.getElem?_append_left (List.getElem?_eq_some_iff.mp hg).1]
      exact hg
    · exact forall_append (fun _ _ ↦ ⟨rfl, rfl⟩) h.others
    · exact forall_append (fun _ _ ↦ .inl rfl) h.refused
  · refine ⟨h.state, ⟨given, ?_, hgiven⟩, ?_, ?_, h.silent⟩
    · rw [List.getElem?_set_ne hij]
      exact hg
    · exact forall_set (fun _ ↦ ⟨rfl, rfl⟩) fun k slot _ hk ↦ h.others k slot hk
    · refine forall_set (fun hahead ↦ .inr ?_) fun k slot _ hk ↦ h.refused k slot hk
      rcases h.refused j _ hj hahead with he | he
      · obtain rfl : entered = asked := Call.enter.inj he
        rfl
      · cases he
  · exact h

theorem Stuck.act (h : Stuck first verb i s) (m : Move κ) : Stuck first verb i (s.act m) := by
  rcases s.act_cases m with he | hst
  · rw [he]
    exact h
  · exact h.step hst

theorem Stuck.size_act (h : Stuck first verb i s) (m : Move κ) :
    (s.act m).lifecycle.size = s.lifecycle.size + if verb = .start then gain m else 0 := by
  have hs := h.state
  have keep (hm : gain m = 0) (hn : ∀ hook, m ≠ .append hook) :
      (s.act m).lifecycle.size = s.lifecycle.size + if verb = .start then gain m else 0 := by
    rw [hm, ite_self, Nat.add_zero]
    rcases s.act_cases m with he | hst
    · rw [he]
    · rcases h.step_cases hst with ⟨hook, rfl, _⟩ | ⟨_, _, he⟩ | ⟨_, _, _, _, _, _, _, he⟩ | ⟨_, he⟩
      · exact absurd rfl (hn hook)
      · rw [he]
      · rw [he]
      · rw [he]
  cases m with
  | append hook =>
    cases verb <;>
      simp [Scene.act, Lifecycle.append, accepts, size, gain, hs, Verb.during]
  | _ =>
    apply keep rfl
    intro hook he
    cases he

theorem Stuck.refused_turn (h : Stuck first verb i s) {j : Nat} (hahead : first.Ahead j)
    (hj : j < s.slots.length) : ∃ slot, (s.act (.turn j)).slots[j]? = some slot ∧
      slot.call = .done (.error (refusal slot.verb verb.during)) := by
  have hs := h.state
  have hget := List.getElem?_eq_getElem hj
  have hij : j ≠ i := by
    rintro rfl
    obtain ⟨given, hg, _, hw⟩ := h.parked
    rcases h.refused j given hg hahead with he | he <;> rw [he] at hw <;> cases hw
  obtain ⟨_, hd⟩ := h.others j _ hget hij
  have hcall := h.refused j _ hget hahead
  generalize s.slots[j] = slot at hget hd hcall
  obtain ⟨asked, call, job, dropped⟩ := slot
  obtain rfl : dropped = false := hd
  rcases hcall with hcall | hcall
  · obtain rfl : call = .enter asked := hcall
    refine ⟨⟨asked, .done (.error (refusal asked verb.during)), job, false⟩, ?_, rfl⟩
    have hact : s.act (.turn j) = { s with
        slots := s.slots.set j
          ⟨asked, .done (.error (refusal asked verb.during)), job, false⟩ } := by
      cases asked <;> cases verb <;>
        simp [Scene.act, turn, Call.turn, enterStart, enterStop, passing, refusal, Verb.during,
          hget, hs]
    rw [hact]
    exact List.getElem?_set_self hj
  · obtain rfl : call = .done (.error (refusal asked verb.during)) := hcall
    refine ⟨⟨asked, .done (.error (refusal asked verb.during)), job, false⟩, ?_, rfl⟩
    simp [Scene.act, turn, Call.turn, hget]

theorem Cooperative.stuck {first : List (Move κ)} (h : Cooperative first)
    (hi : (run first).slots[i]? = some slot) (hw : slot.call.awaited = some verb)
    (more : List (Move κ)) :
    Stuck (run first) verb i (run (first ++ .drop i :: more)) ∧
      (run (first ++ .drop i :: more)).lifecycle.size =
        (run first).lifecycle.size + if verb = .start then (more.map gain).sum else 0 := by
  induction more using List.reverseRecOn with
  | nil =>
    rw [run_concat]
    refine ⟨(solo_run h).stuck hi hw, ?_⟩
    simp [act, hi, hw]
  | append_singleton more m ih =>
    obtain ⟨hstuck, hsize⟩ := ih
    rw [← List.cons_append, ← List.append_assoc, run_concat]
    refine ⟨hstuck.act m, ?_⟩
    rw [hstuck.size_act m, hsize, List.map_append, List.sum_append]
    split <;> simp [Nat.add_assoc]

/-- When a call is given up on a single thread while it waits for a callback, then, whatever comes
later:
* the lifecycle stays in the state in which callbacks of that kind are run;
* no callback is ever invoked again;
* a lifecycle that is left starting takes in every hook that is registered, and one that is left
  stopping none;
* every call that had yet to look at the lifecycle is turned away as soon as it does. -/
theorem Cooperative.abandoned {first : List (Move κ)} (h : Cooperative first)
    (hi : (run first).slots[i]? = some slot) (hw : slot.call.awaited = some verb)
    (more : List (Move κ)) :
    (run (first ++ .drop i :: more)).lifecycle.state = verb.during ∧
    (run (first ++ .drop i :: more)).invocations = (run first).invocations ∧
    (run (first ++ .drop i :: more)).lifecycle.size =
      (run first).lifecycle.size + (if verb = .start then (more.map gain).sum else 0) ∧
    ∀ j, (run first).Ahead j → j < (run (first ++ .drop i :: more)).slots.length →
      ∃ other, (run (first ++ .drop i :: more ++ [.turn j])).slots[j]? = some other ∧
        other.call = .done (.error (refusal other.verb verb.during)) := by
  obtain ⟨hstuck, hsize⟩ := h.stuck hi hw more
  refine ⟨hstuck.state, hstuck.silent, hsize, fun j hahead hj ↦ ?_⟩
  rw [run_concat]
  exact hstuck.refused_turn hahead hj

/-- A start call whose second hook fails, and that waits for the stop callback of the first one. -/
def rollingBack : List (Move Unit) :=
  [.append ⟨"first", none, some ()⟩, .append ⟨"second", some (), none⟩, .make .start, .turn 0,
    .turn 0, .turn 0, .turn 0, .finish 0 (.error (.failed "refused")), .turn 0, .turn 0]

def tooLate : List (Move Unit) :=
  [.append ⟨"third", some (), some ()⟩, .make .start, .make .stop, .finish 0 (.ok ()), .turn 1]

theorem rollingBack_abandoned : Cooperative rollingBack ∧
    (run (rollingBack ++ .drop 0 :: tooLate)).lifecycle.state = .stopping ∧
    (run (rollingBack ++ .drop 0 :: tooLate)).invocations = [(.stop, 0), (.start, 1)] ∧
    (run (rollingBack ++ .drop 0 :: tooLate)).lifecycle.size = 1 ∧
    ∃ slot, (run (rollingBack ++ .drop 0 :: tooLate ++ [.turn 2])).slots[2]? = some slot ∧
      slot.call = .done (.error (refusal slot.verb .stopping)) := by
  have hc : Cooperative rollingBack := by decide
  have hwaits : ∃ slot, (run rollingBack).slots[0]? = some slot ∧
      slot.call.awaited = some .stop := ⟨_, rfl, rfl⟩
  obtain ⟨slot, hi, hw⟩ := hwaits
  obtain ⟨hstate, hsilent, hsize, hrefused⟩ := hc.abandoned hi hw tooLate
  have hlater : (run rollingBack).Ahead 2 := nofun
  exact ⟨hc, hstate, hsilent, hsize, hrefused 2 hlater (by decide)⟩

end Scene

end Telemetry.Lifecycle
