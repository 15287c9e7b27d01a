import Telemetry.Proofs.Lifecycle.Endings
import Telemetry.Proofs.Provider.Lookups
import Telemetry.Provider.Binding

namespace Telemetry

open Lifecycle (Error Move Scene State Verb)
open ProviderCache (Note Traffic)

variable {ε α σ : Type}

def Callback.target? : Callback α → Option α
  | close _ _ _ p => some p
  | other _ => none

def Lifecycle.Move.Plain : Move (Callback α) → Prop
  | .append h => h.onStart >>= Callback.target? = none ∧ h.onStop >>= Callback.target? = none
  | _ => True

/-- The answer to a lookup has been handed over to the lifecycle, which was in `state` and had taken
in `place` hooks. -/
structure Handover where
  lookup : Nat
  state : State
  place : Nat

/-- A cache and a lifecycle that any number of callers use at the same time. -/
structure Host (ε α : Type) where
  traffic : Traffic ε α := {}
  moves : List (Move (Callback α)) := []
  bound : List Handover := []

namespace Host

def scene (s : Host ε α) : Scene (Callback α) := .run s.moves

/-- One step of anyone. The answer to a lookup is handed over once at most. -/
inductive Step [DecidableEq α] (k : Signal) (s : Host ε α) : Host ε α → Prop
  | look {t : Traffic ε α} (h : Traffic.Step s.traffic t) : Step k s { s with traffic := t }
  | move {m : Move (Callback α)} (h : m.Plain) : Step k s { s with moves := s.moves ++ [m] }
  | bind {i : Nat} {a : Resolved α} (key : String)
      (hi : s.traffic.lookups[i]? = some (.finished (.ok a)))
      (hb : i ∉ s.bound.map Handover.lookup) :
      Step k s { s with
        moves := s.moves ++ ((bindingHook? k key a).map Move.append).toList
        bound := ⟨i, s.scene.lifecycle.state, s.scene.accepted.length⟩ :: s.bound }

def Later [DecidableEq α] (k : Signal) : Host ε α → Host ε α → Prop := Relation.ReflTransGen (Step k)

def Reached [DecidableEq α] (k : Signal) (s : Host ε α) : Prop := Later k {} s

section Counting

def recorded (shutdown : Signal → α → σ → Attempt × σ) (k : Signal) (p : α) (s : σ × List α) :
    Attempt × σ × List α :=
  let (attempt, rest) := shutdown k p s.1
  (attempt, rest, p :: s.2)

def replay (shutdown : Signal → α → σ → Attempt × σ) (scene : Scene (Callback α)) (start : σ) : σ :=
  scene.invocations.foldr (fun call s ↦ match scene.callback? call.1 call.2 with
    | some callback => (callback.exec shutdown s).2
    | none => s) start

def closed (s : Host ε α) (shutdown : Signal → α → σ → Attempt × σ) (start : σ) : List α :=
  (replay (recorded shutdown) s.scene (start, [])).2

def shutdowns [DecidableEq α] (s : Host ε α) (shutdown : Signal → α → σ → Attempt × σ) (start : σ)
    (p : α) : Nat :=
  (Traffic.closers p s.traffic.log).length + (s.closed shutdown start).count p

def target? (s : Host ε α) (call : Verb × Nat) : Option α :=
  s.scene.callback? call.1 call.2 >>= Callback.target?

/-- However shutdowns go, what is shut down is what the invoked callbacks are for. -/
theorem closed_eq (s : Host ε α) (shutdown : Signal → α → σ → Attempt × σ) (start : σ) :
    s.closed shutdown start = s.scene.invocations.filterMap s.target? := by
  unfold closed replay target?
  induction s.scene.invocations with
  | nil => rfl
  | cons call calls ih =>
    rw [List.foldr_cons, List.filterMap_cons, ← ih]
    cases s.scene.callback? call.1 call.2 with
    | none => rfl
    | some callback => cases callback <;> rfl

theorem count_closed [DecidableEq α] {s : Host ε α} {p : α} {call : Verb × Nat}
    (hc : s.target? call = some p) (honly : ∀ other, s.target? other = some p → other = call)
    (shutdown : Signal → α → σ → Attempt × σ) (start : σ) :
    (s.closed shutdown start).count p = if call ∈ s.scene.invocations then 1 else 0 := by
  have hnodup : s.scene.invocations.Nodup := (Scene.unspent_run s.moves).once
  rw [closed_eq, List.count_filterMap, ← hnodup.count, List.count_eq_countP]
  apply List.countP_congr
  intro other _
  simp only [beq_iff_eq]
  exact ⟨honly other, fun he ↦ he ▸ hc⟩

theorem count_closed_eq_zero [DecidableEq α] {s : Host ε α} {p : α}
    (hnone : ∀ call ∈ s.scene.invocations, s.target? call ≠ some p)
    (shutdown : Signal → α → σ → Attempt × σ) (start : σ) :
    (s.closed shutdown start).count p = 0 := by
  rw [closed_eq, List.count_filterMap, List.countP_eq_zero]
  intro call hm
  simpa using hnone call hm

end Counting

section Accounts

variable {s s' : Host ε α}

/-- The hook that a handover has registered, as long as the lifecycle took it in. -/
def Placed (s : Host ε α) (b : Handover) (p : α) : Prop :=
  ∃ before h after, s.moves = before ++ .append h :: after ∧ h.onStart = none ∧
    h.onStop >>= Callback.target? = some p ∧
    (Scene.run before).lifecycle.state = b.state ∧ (Scene.run before).accepted.length = b.place

def Source (s : Host ε α) (n : Nat) (p : α) : Prop :=
  ∃ b ∈ s.bound, b.place = n ∧
    s.traffic.lookups[b.lookup]? = some (.finished (.ok ⟨some p, .created⟩))

/-- What is true after every step. -/
structure Accounted (s : Host ε α) : Prop where
  sound : s.traffic.Sound
  once : (s.bound.map Handover.lookup).Nodup
  listed : ∀ b ∈ s.bound, ∃ a, s.traffic.lookups[b.lookup]? = some (.finished (.ok a)) ∧
    ∀ p, a = ⟨some p, .created⟩ → s.Placed b p
  traced : ∀ verb n p, s.target? (verb, n) = some p → verb = .stop ∧ s.Source n p

theorem Accounted.start : Accounted ({} : Host ε α) where
  sound := .start
  once := List.nodup_nil
  listed b hb := by cases hb
  traced verb n p h := by simp [target?, scene, Scene.callback?] at h

theorem bindingHook?_cases (k : Signal) (key : String) (a : Resolved α) :
    (∃ p, a = ⟨some p, .created⟩ ∧
      bindingHook? k key a = some (shutdownHook k key defaultShutdownLimit p)) ∨
    (∀ p, a ≠ ⟨some p, .created⟩) ∧ bindingHook? k key a = none := by
  obtain ⟨provider, origin⟩ := a
  cases origin <;> cases provider <;> simp [bindingHook?, Resolved.isNew]

theorem Placed.extend {b : Handover} {p : α} (h : s.Placed b p) {more : List (Move (Callback α))}
    (hm : s'.moves = s.moves ++ more) : s'.Placed b p := by
  obtain ⟨before, hook, after, he, hrest⟩ := h
  exact ⟨before, hook, after ++ more, by rw [hm, he]; simp, hrest⟩

theorem finished_mono [DecidableEq α] {t t' : Traffic ε α} (hst : Traffic.Step t t') {i : Nat}
    {result : Except ε (Resolved α)} (hi : t.lookups[i]? = some (.finished result)) :
    t'.lookups[i]? = some (.finished result) := by
  have other {j : Nat} {l l' : ProviderCache.Lookup ε α} (hj : t.lookups[j]? = some l)
      (hl : ∀ result, l ≠ .finished result) :
      (t.lookups.set j l')[i]? = some (.finished result) := by
    have hij : j ≠ i := by
      rintro rfl
      exact hl result (Option.some_inj.mp (hj.symm.trans hi))
    rw [List.getElem?_set_ne hij, hi]
  cases hst with
  | hit | miss =>
    simp only [Traffic.begin]
    rw [List.getElem?_append_left (List.getElem?_eq_some_iff.mp hi).1, hi]
  | fail _ hj | build _ hj _ | settle hj | discard hj => exact other hj (by simp)
  | clear | peek => exact hi

theorem target?_concat {traffic : Traffic ε α} {m : Move (Callback α)} {bound : List Handover}
    {verb : Verb} {n : Nat} {p : α}
    (ht : target? ⟨traffic, s.moves ++ [m], bound⟩ (verb, n) = some p) :
    s.target? (verb, n) = some p ∨ n = s.scene.accepted.length ∧ ∃ h, m = .append h ∧
      (verb = .start ∧ h.onStart >>= Callback.target? = some p ∨
        verb = .stop ∧ h.onStop >>= Callback.target? = some p) := by
  obtain ⟨c, hc, hp⟩ := Option.bind_eq_some_iff.mp ht
  rcases Scene.callback?_concat hc with hold | ⟨hn, h, hm, hnew⟩
  · exact .inl (Option.bind_eq_some_iff.mpr ⟨c, hold, hp⟩)
  · refine .inr ⟨hn, h, hm, ?_⟩
    rcases hnew with ⟨hv, hs⟩ | ⟨hv, hs⟩
    · exact .inl ⟨hv, Option.bind_eq_some_iff.mpr ⟨c, hs, hp⟩⟩
    · exact .inr ⟨hv, Option.bind_eq_some_iff.mpr ⟨c, hs, hp⟩⟩

theorem Accounted.look [DecidableEq α] (h : Accounted s) {t : Traffic ε α}
    (hst : Traffic.Step s.traffic t) : Accounted { s with traffic := t } where
  sound := h.sound.step hst
  once := h.once
  listed b hb := by
    obtain ⟨a, hi, hplaced⟩ := h.listed b hb
    exact ⟨a, finished_mono hst hi, hplaced⟩
  traced verb n p hp := by
    obtain ⟨hv, b, hb, hn, hi⟩ := h.traced verb n p hp
    exact ⟨hv, b, hb, hn, finished_mono hst hi⟩

theorem Accounted.move (h : Accounted s) {m : Move (Callback α)} (hm : m.Plain) :
    Accounted { s with moves := s.moves ++ [m] } where
  sound := h.sound
  once := h.once
  listed b hb := by
    obtain ⟨a, hi, hplaced⟩ := h.listed b hb
    exact ⟨a, hi, fun p ha ↦ (hplaced p ha).extend rfl⟩
  traced verb n p hp := by
    rcases target?_concat hp with hold | ⟨_, hook, rfl, hnew⟩
    · exact h.traced verb n p hold
    · rcases hnew with ⟨_, hs⟩ | ⟨_, hs⟩
      · rw [hm.1] at hs
        cases hs
      · rw [hm.2] at hs
        cases hs

theorem Accounted.bind (h : Accounted s) {i : Nat} {a : Resolved α} (k : Signal) (key : String)
    (hi : s.traffic.lookups[i]? = some (.finished (.ok a)))
    (hb : i ∉ s.bound.map Handover.lookup) :
    Accounted { s with
      moves := s.moves ++ ((bindingHook? k key a).map Move.append).toList
      bound := ⟨i, s.scene.lifecycle.state, s.scene.accepted.length⟩ :: s.bound } where
  sound := h.sound
  once := List.nodup_cons.mpr ⟨hb, h.once⟩
  listed b hm := by
    rcases List.mem_cons.mp hm with rfl | hm
    · refine ⟨a, hi, ?_⟩
      rintro p rfl
      exact ⟨s.moves, shutdownHook k key defaultShutdownLimit p, [], rfl, rfl, rfl, rfl, rfl⟩
    · obtain ⟨a', hi', hplaced⟩ := h.listed b hm
      exact ⟨a', hi', fun p ha ↦ (hplaced p ha).extend rfl⟩
  traced verb n p hp := by
    have old (hold : s.target? (verb, n) = some p) : verb = .stop ∧
        Source { s with
          moves := s.moves ++ ((bindingHook? k key a).map Move.append).toList
          bound := ⟨i, s.scene.lifecycle.state, s.scene.accepted.length⟩ :: s.bound } n p := by
      obtain ⟨hv, b, hm, hrest⟩ := h.traced verb n p hold
      exact ⟨hv, b, List.mem_cons_of_mem _ hm, hrest⟩
    rcases bindingHook?_cases k key a with ⟨q, rfl, hhook⟩ | ⟨_, hhook⟩
    · rw [hhook] at hp old ⊢
      rcases target?_concat hp with hold | ⟨rfl, hook, he, hnew⟩
      · exact old hold
      · cases he
        rcases hnew with ⟨_, hs⟩ | ⟨hv, hs⟩
        · cases hs
        · cases hs
          exact ⟨hv, _, List.mem_cons_self, rfl, hi⟩
    · rw [hhook] at hp old ⊢
      simp only [Option.map_none, Option.toList_none, List.append_nil] at hp
      exact old hp

theorem Accounted.step [DecidableEq α] (h : Accounted s) {k : Signal} (hst : Step k s s') :
    Accounted s' := by
  cases hst with
  | look ht => exact h.look ht
  | move hm => exact h.move hm
  | bind key hi hb => exact h.bind k key hi hb

theorem Reached.accounted [DecidableEq α] {k : Signal} (h : Reached k s) : Accounted s := by
  induction h with
  | refl => exact .start
  | tail _ hst ih => exact ih.step hst

theorem Step.moves_mono [DecidableEq α] {k : Signal} (hst : Step k s s') :
    ∃ more, s'.moves = s.moves ++ more := by
  cases hst with
  | look => exact ⟨[], (List.append_nil _).symm⟩
  | move | bind => exact ⟨_, rfl⟩

theorem Later.moves_mono [DecidableEq α] {k : Signal} (h : Later k s s') :
    ∃ more, s'.moves = s.moves ++ more := by
  induction h with
  | refl => exact ⟨[], (List.append_nil _).symm⟩
  | tail _ hst ih =>
    obtain ⟨more, hm⟩ := ih
    obtain ⟨more', hm'⟩ := hst.moves_mono
    exact ⟨more ++ more', by rw [hm', hm, List.append_assoc]⟩

theorem Later.finished_mono [DecidableEq α] {k : Signal} (h : Later k s s') {i : Nat}
    {result : Except ε (Resolved α)} (hi : s.traffic.lookups[i]? = some (.finished result)) :
    s'.traffic.lookups[i]? = some (.finished result) := by
  induction h with
  | refl => exact hi
  | tail _ hst ih => cases hst with
    | look ht => exact Host.finished_mono ht ih
    | move | bind => exact ih

theorem Later.log_mono [DecidableEq α] {k : Signal} (h : Later k s s') :
    s.traffic.log <:+ s'.traffic.log := by
  induction h with
  | refl => exact List.suffix_refl _
  | tail _ hst ih =>
    cases hst with
    | move | bind => exact ih
    | look ht =>
      refine ih.trans ?_
      cases ht with
      | settle => exact List.suffix_append _ _
      | _ => exact List.suffix_cons _ _

theorem Later.bound_mono [DecidableEq α] {k : Signal} (h : Later k s s') {b : Handover}
    (hb : b ∈ s.bound) : b ∈ s'.bound := by
  induction h with
  | refl => exact hb
  | tail _ hst ih => cases hst with
    | look | move => exact ih
    | bind => exact List.mem_cons_of_mem _ ih

theorem Later.target?_mono [DecidableEq α] {k : Signal} (h : Later k s s') {call : Verb × Nat}
    {p : α} (ht : s.target? call = some p) : s'.target? call = some p := by
  obtain ⟨more, hm⟩ := h.moves_mono
  obtain ⟨c, hc, hp⟩ := Option.bind_eq_some_iff.mp ht
  have hn := Scene.lt_of_callback? (Option.isSome_of_eq_some hc)
  rw [target?, scene, hm, Scene.callback?_extend (Scene.accepted_mono s.moves more) hn]
  exact ht

theorem Later.invoked_mono [DecidableEq α] {k : Signal} (h : Later k s s') {call : Verb × Nat}
    (hi : call ∈ s.scene.invocations) : call ∈ s'.scene.invocations := by
  obtain ⟨more, hm⟩ := h.moves_mono
  rw [scene, hm]
  exact ((Scene.log_mono s.moves more).sublist.filterMap _).subset hi

theorem Later.moved [DecidableEq α] (k : Signal) (s : Host ε α) (ms : List (Move (Callback α)))
    (h : ∀ m ∈ ms, m.Plain) : Later k s { s with moves := s.moves ++ ms } := by
  induction ms using List.reverseRecOn with
  | nil =>
    rw [List.append_nil]
    exact .refl
  | append_singleton ms m ih =>
    have first := ih fun m' hm' ↦ h m' (List.mem_append_left _ hm')
    rw [← List.append_assoc]
    exact first.tail (.move (h m (by simp)))

theorem Reached.looked [DecidableEq α] (k : Signal) {t : Traffic ε α} (h : Traffic.Reached t) :
    Reached k { traffic := t } := by
  induction h with
  | start => exact .refl
  | step _ hst ih => exact ih.tail (.look hst)

end Accounts

section Answers

variable {s s' : Host ε α}

theorem made_of_created {t : Traffic ε α} (h : t.Sound) {i : Nat} {p : α}
    (hi : t.lookups[i]? = some (.finished (.ok ⟨some p, .created⟩))) :
    .made i (.ok (some p)) ∈ t.log := by
  have htr := h.traced i _ hi
  have sub : ∀ n ∈ Traffic.trail i t.log, n ∈ t.log := fun n hn ↦ (List.mem_filter.mp hn).1
  generalize Traffic.trail i t.log = past at htr sub
  cases htr with
  | created r q => exact sub _ (by simp)

theorem answer_of_made {t : Traffic ε α} (h : t.Sound) {i : Nat} {p : α}
    (hm : .made i (.ok (some p)) ∈ t.log) {result : Except ε (Resolved α)}
    (hi : t.lookups[i]? = some (.finished result)) : ∃ a, result = .ok a := by
  have htr := h.traced i _ hi
  have hpast := (Traffic.mem_trail (i := i) rfl).mpr hm
  generalize Traffic.trail i t.log = past at htr hpast
  cases htr with
  | failed => simp at hpast
  | _ => exact ⟨_, rfl⟩

theorem Source.unique (h : Accounted s) {n n' : Nat} {p : α} (hn : s.Source n p)
    (hn' : s.Source n' p) : n = n' := by
  obtain ⟨b, hb, rfl, hi⟩ := hn
  obtain ⟨b', hb', rfl, hi'⟩ := hn'
  have hlookup := h.sound.maker_unique (made_of_created h.sound hi) (made_of_created h.sound hi')
  rw [List.inj_on_of_nodup_map h.once hb hb' hlookup]

variable [DecidableEq α]

theorem Accounted.count_created (h : Accounted s) {b : Handover} (hb : b ∈ s.bound) {p : α}
    (hi : s.traffic.lookups[b.lookup]? = some (.finished (.ok ⟨some p, .created⟩)))
    (ht : s.target? (.stop, b.place) = some p) (shutdown : Signal → α → σ → Attempt × σ)
    (start : σ) : (s.closed shutdown start).count p =
      if (.stop, b.place) ∈ s.scene.invocations then 1 else 0 := by
  refine count_closed ht ?_ shutdown start
  rintro ⟨verb, n⟩ hother
  obtain ⟨rfl, hsource⟩ := h.traced verb n p hother
  rw [hsource.unique h ⟨b, hb, rfl, hi⟩]

theorem Accounted.count_raced (h : Accounted s) {i : Nat} {existing : Option α} {p : α}
    (hm : .made i (.ok (some p)) ∈ s.traffic.log)
    (hi : s.traffic.lookups[i]? = some (.finished (.ok ⟨existing, .raced⟩)))
    (shutdown : Signal → α → σ → Attempt × σ) (start : σ) :
    (s.closed shutdown start).count p = 0 := by
  refine count_closed_eq_zero (fun ⟨verb, n⟩ _ ht ↦ ?_) shutdown start
  obtain ⟨_, b, _, _, hb⟩ := h.traced verb n p ht
  rw [h.sound.maker_unique (made_of_created h.sound hb) hm, hi] at hb
  cases hb

end Answers

section Completion

variable {s s' : Host ε α}

/-- All lookups are over and what they found has been handed over in time; the start call has
succeeded, and a stop call is through. -/
structure Complete (s : Host ε α) : Prop where
  answered : ∀ (i : Nat) (l : ProviderCache.Lookup ε α), s.traffic.lookups[i]? = some l →
    ∃ result, l = .finished result
  handed : ∀ (i : Nat) (a : Resolved α), s.traffic.lookups[i]? = some (.finished (.ok a)) →
    i ∈ s.bound.map Handover.lookup
  timely : ∀ b ∈ s.bound, b.state = .idle ∨ b.state = .running
  started : s.scene.Ended .start (.ok ())
  stopped : ∃ result, s.scene.Ended .stop result ∧ ∀ e, result = .error e → e.rejects = false
  quiet : ∀ (i : Nat) (slot : Lifecycle.Slot (Callback α)), s.scene.slots[i]? = some slot →
    slot.verb = .stop → slot.call.active = false

theorem Complete.invoked (hc : Complete s) {b : Handover} (hb : b ∈ s.bound) {p : α}
    (hp : s.Placed b p) :
    s.target? (.stop, b.place) = some p ∧ (.stop, b.place) ∈ s.scene.invocations := by
  obtain ⟨before, h, after, hmoves, hstart, hstop, hstate, hplace⟩ := hp
  have hs : (Scene.run before).lifecycle.state = .idle ∨
      (Scene.run before).lifecycle.state = .running ∧ h.onStart = none := by
    rw [hstate]
    exact (hc.timely b hb).imp_right fun hr ↦ ⟨hr, hstart⟩
  have ha := Scene.accepted_append after hs
  rw [← hmoves, hplace] at ha
  refine ⟨?_, ?_⟩
  · simp only [target?, scene, Scene.callback?, ha]
    exact hstop
  · obtain ⟨i, slot, hi, hv, hok⟩ := hc.started
    have hi' := hi
    rw [scene, hmoves] at hi'
    have hlt := Scene.lt_reached_of_append hs hi' (.inr ⟨hv, hok⟩)
    rw [← hmoves, hplace] at hlt
    obtain ⟨result, hended, hr⟩ := hc.stopped
    have hover := (Scene.told_run s.moves).over_of_ended hended hr (by simp)
    refine Scene.invoked_of_reached hlt ha (fun hnone ↦ ?_) hc.started hover hc.quiet
    rw [hnone] at hstop
    cases hstop

theorem Complete.placed (hc : Complete s) (h : Accounted s) {i : Nat} {p : α}
    (hi : s.traffic.lookups[i]? = some (.finished (.ok ⟨some p, .created⟩))) :
    ∃ b ∈ s.bound, b.lookup = i ∧ s.Placed b p := by
  obtain ⟨b, hb, hlookup⟩ := List.mem_map.mp (hc.handed i _ hi)
  obtain ⟨a, ha, hplaced⟩ := h.listed b hb
  rw [hlookup, hi] at ha
  cases ha
  exact ⟨b, hb, hlookup, hplaced p rfl⟩

variable [DecidableEq α] {k : Signal}

/-- Once all is over, every provider that has been built has been shut down once, however shutdowns
go: by its lookup if another one was faster, and else by a hook, after the stop call has been let in.
Nothing that happens later changes that. -/
theorem Reached.shut_down_once (h : Reached k s) (hc : Complete s)
    (shutdown : Signal → α → σ → Attempt × σ) (start : σ) {i : Nat} {p : α}
    (hm : .made i (.ok (some p)) ∈ s.traffic.log) :
    ((∃ existing, s.traffic.lookups[i]? = some (.finished (.ok ⟨existing, .raced⟩)) ∧
        Traffic.closers p s.traffic.log = [i] ∧ (s.closed shutdown start).count p = 0) ∨
      (s.traffic.lookups[i]? = some (.finished (.ok ⟨some p, .created⟩)) ∧
        Traffic.closers p s.traffic.log = [] ∧ (s.closed shutdown start).count p = 1 ∧
        ∀ s₀, Reached k s₀ → Later k s₀ s → (∀ j, .passed j ∉ s₀.scene.log) →
          (s₀.closed shutdown start).count p = 0)) ∧
    ∀ s', Later k s s' → s'.shutdowns shutdown start p = 1 := by
  have hacc := h.accounted
  obtain ⟨l, htr, _⟩ := hacc.sound.traced_of_mem hm rfl
  obtain ⟨result, rfl⟩ := hc.answered i l htr
  obtain ⟨a, rfl⟩ := answer_of_made hacc.sound hm htr
  rcases hacc.sound.candidate htr hm with ⟨rfl, _, hcl⟩ | ⟨horigin, _, hcl⟩
  · obtain ⟨b, hb, rfl, hplaced⟩ := hc.placed hacc htr
    obtain ⟨ht, hinv⟩ := hc.invoked hb hplaced
    refine ⟨.inr ⟨htr, hcl, ?_, fun s₀ h₀ hlater hpass ↦ ?_⟩, fun s' hlater ↦ ?_⟩
    · rw [hacc.count_created hb htr ht, if_pos hinv]
    · obtain ⟨more, hmoves⟩ := hlater.moves_mono
      have hstarted := hc.started
      rw [scene, hmoves] at hstarted
      refine count_closed_eq_zero (fun ⟨verb, n⟩ hn ht₀ ↦ ?_) shutdown start
      obtain ⟨rfl, _⟩ := h₀.accounted.traced verb n p ht₀
      exact Scene.not_invoked_of_not_passed hstarted hpass n hn
    · have hacc' := Reached.accounted (h.trans hlater)
      have htr' := hlater.finished_mono htr
      have hcount := hacc'.count_created (hlater.bound_mono hb) htr' (hlater.target?_mono ht)
        shutdown start
      rw [if_pos (hlater.invoked_mono hinv)] at hcount
      rcases hacc'.sound.candidate htr' (hlater.log_mono.subset hm) with ⟨_, _, hcl'⟩ | ⟨ho, _⟩
      · rw [shutdowns, hcl', hcount]
        rfl
      · cases ho
  · obtain ⟨existing, origin⟩ := a
    obtain rfl : origin = .raced := horigin
    refine ⟨.inl ⟨existing, htr, hcl, hacc.count_raced hm htr shutdown start⟩, fun s' hlater ↦ ?_⟩
    have hacc' := Reached.accounted (h.trans hlater)
    have htr' := hlater.finished_mono htr
    have hm' := hlater.log_mono.subset hm
    rcases hacc'.sound.candidate htr' hm' with ⟨he, _⟩ | ⟨_, _, hcl'⟩
    · cases he
    · rw [shutdowns, hcl', hacc'.count_raced hm' htr' shutdown start]
      rfl

/-- Two lookups of one service both have a provider built. The service is started and stopped, and
the stop call does not wait for the end of the shutdown. -/
def contest : Host Unit Nat where
  traffic :=
    { cache := ⟨[("svc", some 0)]⟩
      lookups := [.finished (.ok ⟨some 0, .created⟩), .finished (.ok ⟨some 0, .raced⟩)]
      log := [.closed 1 1, .inserted 0 "svc" 0, .made 1 (.ok (some 1)), .made 0 (.ok (some 0)),
        .looked 1 ⟨"svc", true⟩, .looked 0 ⟨"svc", true⟩] }
  moves := [.append (shutdownHook .traces "svc" defaultShutdownLimit 0)] ++
    [.make .start, .turn 0, .turn 0, .turn 0, .turn 0, .turn 0, .make .stop, .turn 1, .turn 1,
      .turn 1, .finish 1 (.error (.timedOut .zero)), .turn 1, .turn 1]
  bound := [⟨1, .idle, 1⟩, ⟨0, .idle, 0⟩]

theorem reached_contest : Reached .traces contest := by
  have looked : Traffic.Reached contest.traffic := by
    have first : Traffic.Reached (Traffic.begin ({} : Traffic Unit Nat) ⟨"svc", true⟩
      (.building ⟨"svc", true⟩)) := .step .start (.miss rfl)
    have both := first.step (.miss (r := ⟨"svc", true⟩) rfl)
    have built := (both.step (.build (i := 0) (some 0) rfl (by simp [Traffic.begin, Note.product?])))
      |>.step (.build (i := 1) (some 1) rfl (by simp [Traffic.begin, Traffic.goOn, Note.product?]))
    have settled := (built.step (.settle (i := 0) rfl)).step (.settle (i := 1) rfl)
    exact settled.step (.discard (i := 1) rfl)
  have first := (Reached.looked .traces looked).tail (.bind (i := 0) "svc" rfl (by simp))
  have second := first.tail (.bind (i := 1) "svc" rfl (by simp))
  exact second.trans (Later.moved .traces _ _ (by simp [Move.Plain]))

theorem contest_shut_down : Reached .traces contest ∧ Complete contest ∧
    contest.shutdowns (fun _ _ n ↦ ({}, n + 1)) 0 0 = 1 ∧
    contest.shutdowns (fun _ _ n ↦ ({}, n + 1)) 0 1 = 1 := by
  have hc : Complete contest := by
    refine ⟨fun i l hi ↦ ?_, fun i a hi ↦ ?_, by simp [contest], ⟨0, _, rfl, rfl, rfl⟩,
      ⟨_, ⟨1, _, rfl, rfl, rfl⟩, ?_⟩, fun i slot hi hv ↦ ?_⟩
    · rcases i with _ | _ | i <;> cases hi <;> exact ⟨_, rfl⟩
    · rcases i with _ | _ | i <;> simp [contest]
      cases hi
    · rintro e ⟨⟩
      rfl
    · rcases i with _ | _ | i <;> cases hi <;> rfl
  obtain ⟨_, first⟩ := reached_contest.shut_down_once (i := 0) (p := 0) hc (fun _ _ n ↦ ({}, n + 1)) 0
    (by simp [contest])
  obtain ⟨_, second⟩ := reached_contest.shut_down_once (i := 1) (p := 1) hc (fun _ _ n ↦ ({}, n + 1)) 0
    (by simp [contest])
  exact ⟨reached_contest, hc, first _ .refl, second _ .refl⟩

end Completion

end Host

end Telemetry
