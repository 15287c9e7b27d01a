import Telemetry.Proofs.Lifecycle.Stages

namespace Telemetry.Lifecycle.Scene

variable {κ : Type} {s s' : Scene κ}

def Ready (s : Scene κ) (n : Nat) : Prop :=
  ∀ h, s.accepted[n]? = some h → h.onStart ≠ none → .returned .start n (.ok ()) ∈ s.log

/-- All hooks of a running lifecycle have been started, and only what has been started is stopped. -/
structure Prefixed (s : Scene κ) : Prop where
  full : s.lifecycle.state = .running → s.lifecycle.started = s.lifecycle.hooks.length
  ready : s.lifecycle.state = .running → ∀ n, n < s.accepted.length →
    n < s.taken + s.lifecycle.started ∧ s.Ready n
  stopped : ∀ n, .invoked .stop n ∈ s.log → n < s.accepted.length ∧ s.Ready n

def Settling (s : Scene κ) (i : Nat) : Prop :=
  ∃ verb job, s.slots[i]? = some ⟨verb, .settle, job, false⟩

/-- A hook is registered after a start call has found no more hooks and before that call declares
the lifecycle running. -/
def LateAppend (ms : List (Move κ)) : Prop :=
  ∃ before h between i after, ms = before ++ .append h :: (between ++ .turn i :: after) ∧
    (run before).Settling i

def Missed (ms : List (Move κ)) (i : Nat) : Prop :=
  ∃ before h between, ms = before ++ .append h :: between ∧ (run before).Settling i

theorem Missed.concat {ms : List (Move κ)} {i : Nat} (h : Missed ms i) (m : Move κ) :
    Missed (ms ++ [m]) i := by
  obtain ⟨before, hook, between, rfl, hs⟩ := h
  exact ⟨before, hook, between ++ [m], by simp, hs⟩

theorem LateAppend.of_prefix {first ms : List (Move κ)} (h : LateAppend first)
    (hp : first <+: ms) : LateAppend ms := by
  obtain ⟨rest, rfl⟩ := hp
  obtain ⟨before, hook, between, i, after, rfl, hs⟩ := h
  exact ⟨before, hook, between, i, after ++ rest, by simp, hs⟩

theorem act_turn_settling {i : Nat} {verb : Verb} {job : Option Nat}
    (hi : s.slots[i]? = some ⟨verb, .settle, job, false⟩) :
    s.act (.turn i) = { s with
      lifecycle := s.lifecycle.settle
      slots := s.slots.set i ⟨verb, .done (.ok ()), job, false⟩ } := by
  simp [act, turn, Call.turn, passing, Lifecycle.settle, hi]

def gain : Move κ → Nat
  | .append _ => 1
  | _ => 0

/-- While a start call is about to declare the lifecycle running, nobody else does anything but
register hooks. -/
theorem Fit.settling_act (h : Fit s) {i : Nat} (hi : s.Settling i) {m : Move κ}
    (hm : m ≠ .turn i) : (s.act m).Settling i ∧
      (s.act m).lifecycle.started = s.lifecycle.started ∧
      (s.act m).lifecycle.hooks.length = s.lifecycle.hooks.length + gain m := by
  obtain ⟨verb, job, hi⟩ := hi
  have hs : s.lifecycle.state = .starting := h.fits i _ hi
  by_cases hf : ∃ result, m = .finish i result
  · obtain ⟨result, rfl⟩ := hf
    simp [Scene.act, Scene.finish, hi, Settling, Call.awaited, gain]
  by_cases hd : m = .drop i
  · subst hd
    simp [Scene.act, hi, Settling, Call.awaited, gain]
  refine ⟨⟨verb, job, slots_act hi hm (fun result he ↦ hf ⟨result, he⟩) hd⟩, ?_⟩
  cases m with
  | append hook => simp [Scene.act, Lifecycle.append, accepts, hs, gain]
  | make => simp [Scene.act, gain]
  | turn j =>
    have hij : j ≠ i := fun he ↦ hm (he ▸ rfl)
    cases hj : s.slots[j]? with
    | none => simp [Scene.act, hj, gain]
    | some slot =>
      obtain ⟨verb, call, job, dropped⟩ := slot
      have hin := h.inactive_of_starting hs hi rfl hij hj
      cases dropped with
      | true => simp [Scene.act, hj, gain]
      | false =>
        cases call with
        | enter entered =>
          cases entered <;>
            simp [Scene.act, Scene.turn, Call.turn, enterStart, enterStop, hj, hs, gain]
        | done result => simp [Scene.act, Scene.turn, Call.turn, hj, gain]
        | _ => cases hin
  | finish j result =>
    simp only [Scene.act, gain]
    split
    · split
      · simp
      · simp only [Scene.finish]
        split <;> simp
    · simp
  | drop j =>
    simp only [Scene.act, gain]
    split
    · split <;> simp
    · simp

theorem Fit.full_of_settling (h : Fit s) {i : Nat} {m : Move κ} (hi : (s.act m).Settling i)
    (hn : ¬ s.Settling i) :
    (s.act m).lifecycle.started = (s.act m).lifecycle.hooks.length := by
  obtain ⟨verb, job, hi⟩ := hi
  have hb := h.bound
  rcases s.act_cases m with he | hst
  · rw [he] at hi
    exact absurd ⟨verb, job, hi⟩ hn
  · have other {j : Nat} {new : Slot κ} (hset : (s.slots.set j new)[i]? =
        some ⟨verb, .settle, job, false⟩) : new = ⟨verb, .settle, job, false⟩ := by
      by_cases hij : j = i
      · subst hij
        rw [List.getElem?_set] at hset
        simp only [if_true] at hset
        split at hset
        · exact Option.some_inj.mp hset
        · cases hset
      · rw [List.getElem?_set_ne hij] at hset
        exact absurd ⟨verb, job, hset⟩ hn
    generalize s.act m = s' at hst hi
    cases hst with
    | reach hj hg => exact Nat.le_antisymm hb hg
    | take | join => exact absurd ⟨verb, job, hi⟩ hn
    | make =>
      rw [List.getElem?_append] at hi
      split at hi
      · exact absurd ⟨verb, job, hi⟩ hn
      · have hm := List.mem_of_getElem? hi
        simp at hm
    | drop => exact nomatch congrArg Slot.dropped (other hi)
    | _ => cases other hi

theorem full_or_missed (ms : List (Move κ)) {i : Nat} (hi : (run ms).Settling i) :
    (run ms).lifecycle.started = (run ms).lifecycle.hooks.length ∨ Missed ms i := by
  induction ms using List.reverseRecOn with
  | nil =>
    obtain ⟨verb, job, hi⟩ := hi
    simp at hi
  | append_singleton ms m ih =>
    have hfit := fit_run ms
    rw [run_concat] at hi ⊢
    by_cases hp : (run ms).Settling i
    · by_cases hm : m = .turn i
      · subst hm
        obtain ⟨verb, job, hp⟩ := hp
        obtain ⟨verb', job', hi⟩ := hi
        rw [act_turn_settling hp, List.getElem?_set_self (List.getElem?_eq_some_iff.mp hp).1] at hi
        cases hi
      · obtain ⟨_, hn, hl⟩ := hfit.settling_act hp hm
        cases m with
        | append hook => exact .inr ⟨ms, hook, [], rfl, hp⟩
        | _ => exact (ih hp).imp (fun hf ↦ by rw [hn, hl, hf]; rfl) (·.concat _)
    · exact .inl (hfit.full_of_settling hi hp)

def Fresh (s : Scene κ) (p : Nat) : Prop :=
  ∀ g h, s.lifecycle.hooks[p]? = some g → s.accepted[s.taken + p]? = some h →
    g.onStart = h.onStart.map (s.taken + p, ·)

structure Tidy (s : Scene κ) : Prop where
  full : s.lifecycle.state = .running → s.lifecycle.started = s.lifecycle.hooks.length
  ready : ∀ n, n < s.taken + s.lifecycle.started → s.Ready n
  counting : ∀ (i : Nat) (slot : Slot κ), s.slots[i]? = some slot → slot.call = .count →
    s.Ready (s.taken + s.lifecycle.started)
  fresh : s.lifecycle.state = .idle ∨ s.lifecycle.state = .starting →
    ∀ p, s.lifecycle.started < p → s.Fresh p
  idle : s.lifecycle.state = .idle → s.Fresh s.lifecycle.started
  seeking : ∀ (i : Nat) (slot : Slot κ), s.slots[i]? = some slot → slot.call = .seek →
    s.Fresh s.lifecycle.started
  gone : ∀ n, .invoked .stop n ∈ s.log → n < s.taken

theorem Tidy.start : Tidy ({} : Scene κ) where
  full h := by cases h
  ready n h := by simp at h
  counting i slot h := by simp at h
  fresh _ p _ g h hg := by simp at hg
  idle _ g h hg := by simp at hg
  seeking i slot h := by simp at h
  gone n h := by simp at h

theorem Tidy.goOn (h : Tidy s) {i : Nat} {new : Slot κ} {log : List Note}
    (hl : ∀ note ∈ s.log, note ∈ log)
    (hc : new.call = .count →
      Ready { s with slots := s.slots.set i new, log } (s.taken + s.lifecycle.started))
    (hk : new.call ≠ .seek) (hg : ∀ n, .invoked .stop n ∈ log → n < s.taken) :
    Tidy { s with slots := s.slots.set i new, log } where
  full := h.full
  ready n hn g ha hs := hl _ (h.ready n hn g ha hs)
  counting := forall_set hc fun j slot _ hj hcount g ha hs ↦
    hl _ (h.counting j slot hj hcount g ha hs)
  fresh := h.fresh
  idle := h.idle
  seeking := forall_set (fun he ↦ absurd he hk) fun j slot _ hj ↦ h.seeking j slot hj
  gone := hg

theorem Fit.not_starting (h : Fit s) (hs : s.lifecycle.state ≠ .starting) {i : Nat} {slot : Slot κ}
    (hi : s.slots[i]? = some slot) : slot.call ≠ .count ∧ slot.call ≠ .seek := by
  have hf := h.fits i slot hi
  obtain ⟨verb, call, job, dropped⟩ := slot
  refine ⟨?_, ?_⟩
  · rintro rfl
    exact hs hf.1
  · rintro rfl
    exact hs hf

theorem Tidy.of_not_starting (hfit : Fit s) (hi : s.lifecycle.state ≠ .idle)
    (hs : s.lifecycle.state ≠ .starting)
    (full : s.lifecycle.state = .running → s.lifecycle.started = s.lifecycle.hooks.length)
    (ready : ∀ n, n < s.taken + s.lifecycle.started → s.Ready n)
    (gone : ∀ n, .invoked .stop n ∈ s.log → n < s.taken) : Tidy s where
  full := full
  ready := ready
  counting _ _ hslot hc := absurd hc (hfit.not_starting hs hslot).1
  fresh ho := absurd ho (not_or.mpr ⟨hi, hs⟩)
  idle ho := absurd ho hi
  seeking _ _ hslot hk := absurd hk (hfit.not_starting hs hslot).2
  gone := gone

theorem Fresh.take {p : Nat} (h : s.Fresh p)
    (hc : s.accepted.length = s.taken + s.lifecycle.hooks.length) (new : Hook κ) (started : Nat) :
    Fresh { s with
      lifecycle := { s.lifecycle with
        hooks := s.lifecycle.hooks ++ [numbered s.accepted.length new], started }
      accepted := s.accepted ++ [new] } p := by
  intro g h₀ hg ha
  simp only at hg ha
  rcases Nat.lt_trichotomy p s.lifecycle.hooks.length with hlt | rfl | hgt
  · rw [List.getElem?_append_left hlt] at hg
    rw [List.getElem?_append_left (by omega)] at ha
    exact h g h₀ hg ha
  · rw [← hc] at ha
    obtain rfl : numbered s.accepted.length new = g := by simpa using hg
    obtain rfl : new = h₀ := by simpa using ha
    rw [← hc]
    rfl
  · rw [List.getElem?_eq_none (by simp; omega)] at hg
    cases hg

theorem Ready.take {n : Nat} (h : s.Ready n) (hn : n < s.accepted.length) (new : Hook κ)
    (lifecycle : Lifecycle (Nat × κ)) :
    Ready { s with lifecycle, accepted := s.accepted ++ [new] } n := by
  intro h₀ ha hs
  simp only [List.getElem?_append_left hn] at ha
  exact h h₀ ha hs

theorem Tidy.take (h : Tidy s) (hfit : Fit s)
    (hs : s.lifecycle.state = .idle ∨ s.lifecycle.state = .starting) (new : Hook κ) :
    Tidy { s with
      lifecycle := { s.lifecycle with
        hooks := s.lifecycle.hooks ++ [numbered s.accepted.length new] }
      accepted := s.accepted ++ [new] } where
  full hr := by
    have hr : s.lifecycle.state = .running := hr
    rcases hs with hs | hs <;> rw [hs] at hr <;> cases hr
  ready n hn := by
    have hb := hfit.bound
    have hc := hfit.counted
    have hn : n < s.taken + s.lifecycle.started := hn
    exact (h.ready n hn).take (by omega) new _
  counting i slot hi hcount := by
    have hf := hfit.fits i slot hi
    have hc := hfit.counted
    have hlt : s.lifecycle.started < s.lifecycle.hooks.length := by
      unfold Fits at hf
      rw [hcount] at hf
      exact hf.2
    exact (h.counting i slot hi hcount).take (by omega) new _
  fresh hs p hp := (h.fresh hs p hp).take hfit.counted new _
  idle hs := (h.idle hs).take hfit.counted new _
  seeking i slot hi hk := (h.seeking i slot hi hk).take hfit.counted new _
  gone := h.gone

theorem Tidy.join (h : Tidy s) (hfit : Fit s) (hs : s.lifecycle.state = .running) {new : Hook κ}
    (hn : new.onStart = none) :
    Tidy { s with
      lifecycle := { s.lifecycle with
        hooks := s.lifecycle.hooks ++ [numbered s.accepted.length new]
        started := s.lifecycle.hooks.length + 1 }
      accepted := s.accepted ++ [new] } := by
  refine .of_not_starting (hfit.step (.join hs hn)) (by simp [hs]) (by simp [hs]) (fun _ ↦ by simp)
    (fun n hlt ↦ ?_) h.gone
  have hc := hfit.counted
  have hfull := h.full hs
  have hlt : n < s.taken + (s.lifecycle.hooks.length + 1) := hlt
  rcases Nat.lt_or_ge n s.accepted.length with hold | hnew
  · exact (h.ready n (by omega)).take hold new _
  · intro h₀ ha hstart
    obtain rfl : n = s.accepted.length := by omega
    obtain rfl : new = h₀ := by simpa using ha
    exact absurd hn hstart

theorem Tidy.step (h : Tidy s) (hfit : Fit s) {m : Move κ} (hst : Step s m s')
    (hm : ∀ i, m = .turn i → s.Settling i → s.lifecycle.started = s.lifecycle.hooks.length) :
    Tidy s' := by
  have hfit' := hfit.step hst
  cases hst with
  | take hs => exact h.take hfit hs _
  | join hs hh => exact h.join hfit hs hh
  | make =>
    exact ⟨h.full, h.ready, forall_append (by simp) h.counting, h.fresh, h.idle,
      forall_append (by simp) h.seeking, h.gone⟩
  | start hi hs =>
    refine ⟨by simp, h.ready, forall_set (by simp) fun j slot _ hj hc ↦ ?_,
      fun _ ↦ h.fresh (.inl hs), by simp, forall_set (fun _ ↦ h.idle hs) fun j slot _ hj hk ↦ ?_,
      h.gone⟩
    · exact absurd hc (hfit.not_starting (by simp [hs]) hj).1
    · exact absurd hk (hfit.not_starting (by simp [hs]) hj).2
  | refuse hi _ => exact h.goOn (fun _ ↦ id) (by simp) (by simp) h.gone
  | pass hi hs =>
    exact h.goOn (fun _ ↦ List.mem_cons_of_mem _) (by simp) (by simp)
      fun n hn ↦ h.gone n (by simpa using hn)
  | reach hi _ => exact h.goOn (fun _ ↦ id) (by simp) (by simp) h.gone
  | @skip i verb job g hi hg hn =>
    refine h.goOn (fun _ ↦ id) (fun _ h₀ ha hs ↦ ?_) (by simp) h.gone
    have hfresh := h.seeking i _ hi rfl g h₀ hg ha
    rw [hn] at hfresh
    exact absurd (Option.map_eq_none_iff.mp hfresh.symm) hs
  | @invoke i n verb job g callback hi hg hn =>
    have hs : s.lifecycle.state = .starting := hfit.fits _ _ hi
    have others (j : Nat) (slot : Slot κ) (hij : j ≠ i) (hj : s.slots[j]? = some slot) :=
      hfit.inactive_of_starting hs hi rfl hij hj
    refine ⟨by simp [hs],
      fun k hk g' ha hstart ↦ List.mem_cons_of_mem _ (h.ready k hk g' ha hstart),
      forall_set (by simp) fun j slot hij hj hc ↦ ?_, fun _ p hp g' h₀ hg' ha ↦ ?_, by simp [hs],
      forall_set (by simp) fun j slot hij hj hk ↦ ?_, fun k hk ↦ h.gone k (by simpa using hk)⟩
    · have hin := others j slot hij hj
      rw [hc] at hin
      cases hin
    · have hne : s.lifecycle.started ≠ p := Nat.ne_of_lt hp
      simp only [List.getElem?_set_ne hne] at hg'
      exact h.fresh (.inr hs) p hp g' h₀ hg' ha
    · have hin := others j slot hij hj
      rw [hk] at hin
      cases hin
  | @count i verb job hi =>
    obtain ⟨hs, _⟩ := hfit.fits _ _ hi
    have others (j : Nat) (slot : Slot κ) (hij : j ≠ i) (hj : s.slots[j]? = some slot) :=
      hfit.inactive_of_starting hs hi rfl hij hj
    refine ⟨by simp [countStarted, hs], fun n hn ↦ ?_,
      forall_set (by simp) fun j slot hij hj hc ↦ ?_,
      fun _ p hp ↦ h.fresh (.inr hs) p (Nat.lt_of_succ_lt hp), by simp [countStarted, hs],
      forall_set (fun _ ↦ h.fresh (.inr hs) _ (Nat.lt_succ_self _)) fun j slot hij hj hk ↦ ?_,
      h.gone⟩
    · have hn : n < s.taken + (s.lifecycle.started + 1) := hn
      rcases Nat.lt_or_ge n (s.taken + s.lifecycle.started) with hlt | hge
      · exact h.ready n hlt
      · obtain rfl : n = s.taken + s.lifecycle.started := by omega
        exact h.counting i _ hi rfl
    · have hin := others j slot hij hj
      rw [hc] at hin
      cases hin
    · have hin := others j slot hij hj
      rw [hk] at hin
      cases hin
  | @settle i verb job hi =>
    exact .of_not_starting hfit' (by simp [Lifecycle.settle]) (by simp [Lifecycle.settle])
      (fun _ ↦ hm i rfl ⟨verb, job, hi⟩) h.ready h.gone
  | drain hi =>
    have hmin : min s.lifecycle.started s.lifecycle.hooks.length = s.lifecycle.started :=
      Nat.min_eq_left hfit.bound
    refine .of_not_starting hfit' (by simp [Lifecycle.drain]) (by simp [Lifecycle.drain])
      (by simp [Lifecycle.drain]) (fun n hn ↦ h.ready n ?_)
      fun n hn ↦ Nat.lt_of_lt_of_le (h.gone n hn) (Nat.le_add_right _ _)
    simpa [hmin, Lifecycle.drain] using hn
  | pop hi => exact h.goOn (fun _ ↦ id) (by simp) (by simp) h.gone
  | @stop i n verb job cause name callback rest failures hi =>
    refine h.goOn (fun _ ↦ List.mem_cons_of_mem _) (by simp) (by simp) fun k hk ↦ ?_
    rcases List.mem_cons.mp hk with he | hk
    · cases he
      exact (hfit.fits _ _ hi).2 _ List.mem_cons_self _ rfl
    · exact h.gone k hk
  | empty hi => exact h.goOn (fun _ ↦ id) (by simp) (by simp) h.gone
  | close hi =>
    exact .of_not_starting hfit' (by simp [Lifecycle.close]) (by simp [Lifecycle.close])
      (by simp [Lifecycle.close]) h.ready h.gone
  | @begun i n verb name hi =>
    obtain ⟨_, _, hjob⟩ := hfit.fits _ _ hi
    obtain rfl : n = s.taken + s.lifecycle.started := Option.some_inj.mp hjob
    exact h.goOn (fun _ ↦ List.mem_cons_of_mem _) (fun _ _ _ _ ↦ List.mem_cons_self) (by simp)
      fun k hk ↦ h.gone k (by simpa using hk)
  | failed hi =>
    exact h.goOn (fun _ ↦ List.mem_cons_of_mem _) (by simp) (by simp)
      fun k hk ↦ h.gone k (by simpa using hk)
  | ended hi _ =>
    exact h.goOn (fun _ ↦ List.mem_cons_of_mem _) (by simp) (by simp)
      fun k hk ↦ h.gone k (by simpa using hk)
  | drop hi hw =>
    refine h.goOn (fun _ ↦ id) (fun hc ↦ ?_) (fun hk ↦ ?_) h.gone
    · rw [show _ = Call.count from hc] at hw
      cases hw
    · rw [show _ = Call.seek from hk] at hw
      cases hw

theorem Tidy.prefixed (h : Tidy s) (hfit : Fit s) : Prefixed s where
  full := h.full
  ready hs n hn := by
    have hc := hfit.counted
    have hlt : n < s.taken + s.lifecycle.started := by
      rw [h.full hs, ← hc]
      exact hn
    exact ⟨hlt, h.ready n hlt⟩
  stopped n hn := by
    have hlt := h.gone n hn
    have hc := hfit.counted
    exact ⟨by omega, h.ready n (by omega)⟩

theorem tidy_run {ms : List (Move κ)} (h : ¬ LateAppend ms) : Tidy (run ms) := by
  refine run_induction ms .start fun sofar m s' hp htidy hst ↦ ?_
  refine htidy.step (fit_run sofar) hst fun i hm hi ↦ (full_or_missed sofar hi).resolve_right ?_
  rintro ⟨before, hook, between, rfl, hs⟩
  have hlate : LateAppend (before ++ .append hook :: between ++ [m]) :=
    ⟨before, hook, between, i, [], by simp [hm], hs⟩
  exact h (hlate.of_prefix hp)

theorem running_of_missed {i : Nat} (between : List (Move κ)) :
    ∀ before : List (Move κ), (run before).Settling i →
      (run before).lifecycle.started < (run before).lifecycle.hooks.length →
      ∃ first, first <+: before ++ between ++ [.turn i] ∧ (run first).lifecycle.state = .running ∧
        (run first).lifecycle.started < (run first).lifecycle.hooks.length := by
  induction between with
  | nil =>
    intro before ⟨verb, job, hi⟩ hlt
    refine ⟨before ++ [.turn i], by simp, ?_⟩
    rw [run_concat, act_turn_settling hi]
    exact ⟨rfl, hlt⟩
  | cons m between ih =>
    intro before hset hlt
    by_cases hm : m = .turn i
    · subst hm
      obtain ⟨verb, job, hi⟩ := hset
      refine ⟨before ++ [.turn i], ⟨between ++ [.turn i], by simp⟩, ?_⟩
      rw [run_concat, act_turn_settling hi]
      exact ⟨rfl, hlt⟩
    · obtain ⟨hset', hn, hl⟩ := (fit_run before).settling_act hset hm
      rw [← run_concat] at hset' hn hl
      have htail := ih (before ++ [m]) hset' (by omega)
      simpa using htail

theorem LateAppend.not_full {ms : List (Move κ)} (h : LateAppend ms) :
    ∃ first, first <+: ms ∧ (run first).lifecycle.state = .running ∧
      (run first).lifecycle.started < (run first).lifecycle.hooks.length := by
  obtain ⟨before, hook, between, i, after, rfl, hset⟩ := h
  have hb := (fit_run before).bound
  obtain ⟨hset', hn, hl⟩ := (fit_run before).settling_act hset (m := .append hook) nofun
  rw [← run_concat] at hset' hn hl
  simp only [gain] at hl
  obtain ⟨first, hpre, hrest⟩ :=
    running_of_missed between (before ++ [.append hook]) hset' (by omega)
  exact ⟨first, hpre.trans ⟨after, by simp⟩, hrest⟩

theorem prefixed_of_no_late_append {ms first : List (Move κ)} (h : ¬ LateAppend ms)
    (hp : first <+: ms) : Prefixed (run first) :=
  (tidy_run fun hl ↦ h (hl.of_prefix hp)).prefixed (fit_run first)

theorem Cooperative.prefixed {ms first : List (Move κ)} (h : Cooperative ms) (hp : first <+: ms) :
    Prefixed (run first) := by
  refine prefixed_of_no_late_append ?_ hp
  rintro ⟨before, hook, between, i, after, rfl, verb, job, hi⟩
  exact nomatch h before _ _ rfl i _ hi rfl rfl

/-- The hooks of a running lifecycle have been started, and only what has been started is stopped,
all along a schedule, just when no hook is registered between the moment at which a start call finds
no more hooks and the moment at which it declares the lifecycle running. -/
theorem prefixed_iff_no_late_append (ms : List (Move κ)) :
    (∀ first, first <+: ms → Prefixed (run first)) ↔ ¬ LateAppend ms := by
  constructor
  · intro h hl
    obtain ⟨first, hpre, hs, hlt⟩ := hl.not_full
    exact Nat.ne_of_lt hlt ((h first hpre).full hs)
  · exact fun h first hp ↦ prefixed_of_no_late_append h hp

def lateHook : List (Move Unit) :=
  [.make .start, .turn 0, .turn 0, .append ⟨"late", some (), some ()⟩, .turn 0]

def laterStop : List (Move Unit) :=
  [.append ⟨"later", none, some ()⟩, .make .stop, .turn 1, .turn 1, .turn 1, .finish 1 (.ok ()),
    .turn 1]

/-- The late hook is not started, and the later one makes it count as started, so that it is stopped
all the same. -/
theorem late_hook_not_prefixed :
    (run lateHook).lifecycle.state = .running ∧ (run lateHook).lifecycle.started = 0 ∧
    (run lateHook).lifecycle.hooks.length = 1 ∧ ¬ Prefixed (run lateHook) ∧
    (run (lateHook ++ laterStop)).log =
      [.invoked .stop 0, .returned .stop 1 (.ok ()), .invoked .stop 1, .passed 1] ∧
    ¬ Prefixed (run (lateHook ++ laterStop)) := by
  have hlog : (run (lateHook ++ laterStop)).log =
    [.invoked .stop 0, .returned .stop 1 (.ok ()), .invoked .stop 1, .passed 1] := rfl
  refine ⟨rfl, rfl, rfl, fun h ↦ ?_, hlog, fun h ↦ ?_⟩
  · exact nomatch h.full rfl
  · have hready := (h.stopped 0 (by simp [hlog])).2 ⟨"late", some (), some ()⟩ rfl nofun
    simp [hlog] at hready

end Telemetry.Lifecycle.Scene
