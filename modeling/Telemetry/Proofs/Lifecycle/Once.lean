import Telemetry.Proofs.Lifecycle.Closing

namespace Telemetry.Lifecycle

variable {κ : Type}

def Error.rejects : Error → Bool
  | alreadyStarted | notRunning _ => true
  | start _ | stop _ => false

def Note.invocation? : Note → Option (Verb × Nat)
  | .invoked verb n => some (verb, n)
  | _ => none

def Move.caller? : Move κ → Option Nat
  | .turn i | .finish i _ | .drop i => some i
  | .append _ | .make _ => none

def Slot.queue (slot : Slot κ) : List Nat :=
  match slot.call with
  | .unwind _ rest _ | .stopping _ _ rest _ => numbers rest
  | _ => []

namespace Kept

variable {hooks hooks' : List (Hook (Nat × κ))} {accepted : List (Hook κ)} {taken : Nat}

theorem take (h : Kept hooks accepted taken) (n : Nat) : Kept (hooks.take n) accepted taken := by
  intro p g hg
  rw [List.getElem?_take] at hg
  split at hg
  · exact h p g hg
  · cases hg

theorem join (h : Kept hooks accepted taken) (h' : Kept hooks' accepted (taken + hooks.length)) :
    Kept (hooks ++ hooks') accepted taken := by
  intro p g hg
  rw [List.getElem?_append] at hg
  split at hg
  · exact h p g hg
  · have hp : taken + hooks.length + (p - hooks.length) = taken + p := by omega
    have htail := h' (p - hooks.length) g hg
    rw [hp] at htail
    exact htail

theorem grow (h : Kept hooks accepted taken) (new : Hook κ) :
    Kept hooks (accepted ++ [new]) taken := by
  intro p g hg
  obtain ⟨h₀, ha, hrest⟩ := h p g hg
  refine ⟨h₀, ?_, hrest⟩
  rw [List.getElem?_append_left (List.getElem?_eq_some_iff.mp ha).1]
  exact ha

theorem numbers_lt (h : Kept hooks accepted taken) :
    (hooks.filterMap fun g ↦ g.onStop.map Prod.fst).Pairwise (· < ·) ∧
      ∀ n ∈ hooks.filterMap fun g ↦ g.onStop.map Prod.fst, taken ≤ n := by
  induction hooks generalizing taken with
  | nil => simp
  | cons g hooks ih =>
    obtain ⟨hsorted, hlow⟩ := ih (h.drop 1)
    obtain ⟨h₀, _, _, hstop, _⟩ := h 0 g rfl
    cases hcb : h₀.onStop with
    | none =>
      rw [hcb] at hstop
      simp only [List.filterMap_cons, hstop, Option.map_none]
      exact ⟨hsorted, fun n hn ↦ Nat.le_of_succ_le (hlow n hn)⟩
    | some callback =>
      rw [hcb] at hstop
      simp only [List.filterMap_cons, hstop, Option.map_some]
      refine ⟨List.pairwise_cons.mpr ⟨fun n hn ↦ hlow n hn, hsorted⟩, fun n hn ↦ ?_⟩
      rcases List.mem_cons.mp hn with rfl | hn
      · exact Nat.le_refl _
      · exact Nat.le_of_succ_le (hlow n hn)

theorem forall₂ (h : Kept hooks accepted 0) (hl : accepted.length = hooks.length) :
    List.Forall₂ (fun h g ↦ g = h ∨ g = { h with onStart := none }) (accepted.mapIdx numbered)
      hooks := by
  refine List.forall₂_iff_get.mpr ⟨by simpa using hl, fun p hp hp' ↦ ?_⟩
  obtain ⟨h₀, ha, hname, hstop, hstart⟩ := h p _ (List.getElem?_eq_getElem hp')
  rw [Nat.zero_add] at ha hstop hstart
  have hget : (accepted.mapIdx numbered).get ⟨p, hp⟩ = numbered p h₀ := by
    have hlt := (List.getElem?_eq_some_iff.mp ha).2
    simp [hlt]
  rw [hget, List.get_eq_getElem]
  generalize hooks[p] = g at hname hstop hstart
  obtain ⟨name, onStart, onStop⟩ := g
  obtain rfl : name = h₀.name := hname
  obtain rfl : onStop = h₀.onStop.map (p, ·) := hstop
  rcases hstart with rfl | rfl
  · exact .inr rfl
  · exact .inl rfl

end Kept

namespace Scene

variable {s s' : Scene κ}

def invocations (s : Scene κ) : List (Verb × Nat) := s.log.filterMap Note.invocation?

def callback? (s : Scene κ) (verb : Verb) (n : Nat) : Option κ :=
  s.accepted[n]? >>= fun h ↦ match verb with
    | .start => h.onStart
    | .stop => h.onStop

def Queued (s : Scene κ) (i n : Nat) : Prop :=
  ∃ slot, s.slots[i]? = some slot ∧ n ∈ slot.queue

/-- No callback that may yet be invoked has been invoked before. -/
structure Unspent (s : Scene κ) : Prop where
  armed : ∀ p g, s.lifecycle.hooks[p]? = some g → g.onStart ≠ none →
    (.start, s.taken + p) ∉ s.invocations
  called : ∀ verb n, (verb, n) ∈ s.invocations → (s.callback? verb n).isSome
  gone : ∀ n, (.stop, n) ∈ s.invocations → n < s.taken
  queued : ∀ i n, s.Queued i n → (s.callback? .stop n).isSome ∧ (.stop, n) ∉ s.invocations
  apart : ∀ i j n, s.Queued i n → s.Queued j n → i = j
  distinct : ∀ (i : Nat) (slot : Slot κ), s.slots[i]? = some slot → slot.queue.Nodup
  once : s.invocations.Nodup

theorem lt_of_callback? {verb : Verb} {n : Nat} (h : (s.callback? verb n).isSome) :
    n < s.accepted.length := by
  rw [callback?] at h
  by_contra hge
  rw [List.getElem?_eq_none (Nat.le_of_not_lt hge)] at h
  cases h

theorem callback?_take {verb : Verb} {n : Nat} (h : (s.callback? verb n).isSome)
    (lifecycle : Lifecycle (Nat × κ)) (new : Hook κ) :
    (callback? { s with lifecycle, accepted := s.accepted ++ [new] } verb n).isSome := by
  have hlt := lt_of_callback? h
  simpa only [callback?, List.getElem?_append_left hlt] using h

theorem Fit.lt_of_queued (h : Fit s) {i n : Nat} (hq : s.Queued i n) : n < s.taken := by
  obtain ⟨slot, hi, hn⟩ := hq
  have hf := h.fits i slot hi
  have gone (rest : List (String × Option (Nat × κ))) (hr : s.Gone rest) (hn : n ∈ numbers rest) :
      n < s.taken := by
    obtain ⟨e, he, hen⟩ := List.mem_filterMap.mp hn
    obtain ⟨c, hc, rfl⟩ := Option.map_eq_some_iff.mp hen
    exact hr e he c hc
  obtain ⟨verb, call, job, dropped⟩ := slot
  cases call with
  | unwind cause rest failures => exact gone rest hf.2 hn
  | stopping cause name rest failures => exact gone rest hf.2.1 hn
  | _ => cases hn

theorem numbers_drain (l : Lifecycle (Nat × κ)) : numbers l.drain.1 =
    ((l.hooks.take l.started).filterMap fun g ↦ g.onStop.map Prod.fst).reverse := by
  simp only [numbers, Lifecycle.drain, List.filterMap_map, List.filterMap_reverse]
  rfl

theorem Unspent.start : Unspent ({} : Scene κ) where
  armed p g h := by simp at h
  called verb n h := by simp [invocations] at h
  gone n h := by simp [invocations] at h
  queued i n h := by simp [Queued] at h
  apart i j n h := by simp [Queued] at h
  distinct i slot h := by simp at h
  once := List.nodup_nil

theorem queued_set {i j n : Nat} {old new : Slot κ} {taken : Nat} {log : List Note}
    {lifecycle : Lifecycle (Nat × κ)} (hi : s.slots[i]? = some old)
    (h : Queued { s with lifecycle, slots := s.slots.set i new, taken, log } j n) :
    j = i ∧ n ∈ new.queue ∨ j ≠ i ∧ s.Queued j n := by
  obtain ⟨slot, hj, hn⟩ := h
  by_cases hij : i = j
  · subst hij
    simp only [List.getElem?_set_self (List.getElem?_eq_some_iff.mp hi).1] at hj
    cases hj
    exact .inl ⟨rfl, hn⟩
  · simp only [List.getElem?_set_ne hij] at hj
    exact .inr ⟨Ne.symm hij, slot, hj, hn⟩

theorem Unspent.goOn (h : Unspent s) {i : Nat} {old new : Slot κ}
    {lifecycle : Lifecycle (Nat × κ)} {log : List Note} (hi : s.slots[i]? = some old)
    (hh : lifecycle.hooks = s.lifecycle.hooks) (hq : new.queue.Sublist old.queue)
    (hl : log.filterMap Note.invocation? = s.invocations) :
    Unspent { s with lifecycle, slots := s.slots.set i new, log } := by
  have before {j n : Nat}
      (hj : Queued { s with lifecycle, slots := s.slots.set i new, log } j n) : s.Queued j n := by
    rcases queued_set hi hj with ⟨rfl, hn⟩ | ⟨_, hold⟩
    · exact ⟨old, hi, hq.subset hn⟩
    · exact hold
  constructor
  · simp only [invocations, hl, hh]
    exact h.armed
  · simp only [invocations, hl]
    exact h.called
  · simp only [invocations, hl]
    exact h.gone
  · intro j n hj
    simp only [invocations, hl]
    exact h.queued j n (before hj)
  · intro j k n hj hk
    exact h.apart j k n (before hj) (before hk)
  · exact forall_set ((h.distinct i old hi).sublist hq) fun j slot _ hj ↦ h.distinct j slot hj
  · simp only [invocations, hl]
    exact h.once

theorem Unspent.take (h : Unspent s) (hfit : Fit s) (new : Hook κ) (started : Nat) :
    Unspent { s with
      lifecycle := { s.lifecycle with
        hooks := s.lifecycle.hooks ++ [numbered s.accepted.length new], started }
      accepted := s.accepted ++ [new] } where
  armed p g hg hs hm := by
    rcases Nat.lt_or_ge p s.lifecycle.hooks.length with hlt | hge
    · simp only [List.getElem?_append_left hlt] at hg
      exact h.armed p g hg hs hm
    · have hlt := lt_of_callback? (h.called _ _ hm)
      have hc := hfit.counted
      simp only at hlt
      omega
  called verb n hm := callback?_take (h.called verb n hm) _ new
  gone := h.gone
  queued i n hq := ⟨callback?_take (h.queued i n hq).1 _ new, (h.queued i n hq).2⟩
  apart := h.apart
  distinct := h.distinct
  once := h.once

theorem Unspent.invoke (h : Unspent s) (hfit : Fit s) {i n : Nat} {verb : Verb} {job : Option Nat}
    {g : Hook (Nat × κ)} {callback : κ} (hi : s.slots[i]? = some ⟨verb, .seek, job, false⟩)
    (hg : s.lifecycle.hooks[s.lifecycle.started]? = some g) (hn : g.onStart = some (n, callback)) :
    Unspent { s with
      lifecycle := { s.lifecycle with
        hooks := s.lifecycle.hooks.set s.lifecycle.started { g with onStart := none } }
      slots := s.slots.set i ⟨verb, .starting g.name, some n, false⟩
      log := .invoked .start n :: s.log } := by
  obtain ⟨h₀, ha, _, _, hstart⟩ := hfit.kept _ _ hg
  have hsome : h₀.onStart.map (s.taken + s.lifecycle.started, ·) = some (n, callback) := by
    rw [hn] at hstart
    exact (hstart.resolve_left nofun).symm
  obtain ⟨callback, hcb, he⟩ := Option.map_eq_some_iff.mp hsome
  obtain rfl : s.taken + s.lifecycle.started = n := (Prod.mk.inj he).1
  have unspent : (.start, s.taken + s.lifecycle.started) ∉ s.invocations :=
    h.armed _ g hg (by simp [hn])
  have before {j m : Nat} (hj : Queued { s with
      lifecycle := { s.lifecycle with
        hooks := s.lifecycle.hooks.set s.lifecycle.started { g with onStart := none } }
      slots := s.slots.set i
        ⟨verb, .starting g.name, some (s.taken + s.lifecycle.started), false⟩
      log := .invoked .start (s.taken + s.lifecycle.started) :: s.log } j m) : s.Queued j m := by
    rcases queued_set hi hj with ⟨rfl, hm⟩ | ⟨_, hold⟩
    · cases hm
    · exact hold
  constructor
  case armed =>
    -- The hook has given its callback away, and the other hooks have other numbers.
    intro p g' hg' hs hm
    by_cases hp : s.lifecycle.started = p
    · subst hp
      simp only [List.getElem?_set_self (List.getElem?_eq_some_iff.mp hg).1] at hg'
      cases hg'
      exact hs rfl
    · simp only [List.getElem?_set_ne hp] at hg'
      rcases List.mem_cons.mp hm with he | hm
      · exact hp (by have := (Prod.mk.inj he).2; simp only at this; omega)
      · exact h.armed p g' hg' hs hm
  case called =>
    intro verb m hm
    rcases List.mem_cons.mp hm with he | hm
    · cases he
      simp [callback?, ha, hcb]
    · exact h.called verb m hm
  case gone =>
    intro m hm
    exact h.gone m (by simpa [invocations, Note.invocation?] using hm)
  case queued =>
    intro j m hj
    obtain ⟨hsome, hfresh⟩ := h.queued j m (before hj)
    exact ⟨hsome, by simpa [invocations, Note.invocation?] using hfresh⟩
  case apart =>
    intro j k m hj hk
    exact h.apart j k m (before hj) (before hk)
  case distinct =>
    exact forall_set List.nodup_nil fun j slot _ hj ↦ h.distinct j slot hj
  case once =>
    exact List.nodup_cons.mpr ⟨unspent, h.once⟩

theorem Unspent.stop (h : Unspent s) (hfit : Fit s) {i n : Nat} {verb : Verb} {job : Option Nat}
    {cause : Option Failure} {name : String} {callback : κ}
    {rest : List (String × Option (Nat × κ))} {failures : List Failure}
    (hi : s.slots[i]? = some
      ⟨verb, .unwind cause ((name, some (n, callback)) :: rest) failures, job, false⟩) :
    Unspent { s with
      slots := s.slots.set i ⟨verb, .stopping cause name rest failures, some n, false⟩
      log := .invoked .stop n :: s.log } := by
  have hq : s.Queued i n := ⟨_, hi, List.mem_cons_self⟩
  obtain ⟨hsome, unspent⟩ := h.queued i n hq
  obtain ⟨hrest, hnodup⟩ := List.nodup_cons.mp (h.distinct i _ hi)
  -- No call holds the number any more: not this one, since its numbers are distinct, and no other one.
  have before {j m : Nat} (hj : Queued { s with
      slots := s.slots.set i ⟨verb, .stopping cause name rest failures, some n, false⟩
      log := .invoked .stop n :: s.log } j m) : s.Queued j m ∧ m ≠ n := by
    rcases queued_set hi hj with ⟨rfl, hm⟩ | ⟨hij, hold⟩
    · exact ⟨⟨_, hi, List.mem_cons_of_mem _ hm⟩, fun he ↦ hrest (he ▸ hm)⟩
    · exact ⟨hold, fun he ↦ hij (h.apart j i n (he ▸ hold) hq)⟩
  constructor
  case armed =>
    intro p g hg hs hm
    exact h.armed p g hg hs (by simpa [invocations, Note.invocation?] using hm)
  case called =>
    intro verb m hm
    rcases List.mem_cons.mp hm with he | hm
    · cases he
      exact hsome
    · exact h.called verb m hm
  case gone =>
    intro m hm
    rcases List.mem_cons.mp hm with he | hm
    · cases he
      exact hfit.lt_of_queued hq
    · exact h.gone m hm
  case queued =>
    intro j m hj
    obtain ⟨hold, hne⟩ := before hj
    obtain ⟨hsome, hfresh⟩ := h.queued j m hold
    refine ⟨hsome, fun hm ↦ ?_⟩
    rcases List.mem_cons.mp hm with he | hm
    · exact hne (Prod.mk.inj he).2
    · exact hfresh hm
  case apart =>
    intro j k m hj hk
    exact h.apart j k m (before hj).1 (before hk).1
  case distinct =>
    exact forall_set hnodup fun j slot _ hj ↦ h.distinct j slot hj
  case once =>
    exact List.nodup_cons.mpr ⟨unspent, h.once⟩

theorem Unspent.drain (h : Unspent s) (hfit : Fit s) {i : Nat} {verb : Verb} {job : Option Nat}
    {cause : Option Failure} (hi : s.slots[i]? = some ⟨verb, .drain cause, job, false⟩) :
    Unspent { s with
      lifecycle := s.lifecycle.drain.2
      slots := s.slots.set i ⟨verb, .unwind cause s.lifecycle.drain.1 [], job, false⟩
      taken := s.taken + min s.lifecycle.started s.lifecycle.hooks.length } := by
  have hmin : min s.lifecycle.started s.lifecycle.hooks.length = s.lifecycle.started :=
    Nat.min_eq_left hfit.bound
  rw [hmin]
  have hqueue : Slot.queue ⟨verb, .unwind cause s.lifecycle.drain.1 [], job, false⟩ =
      ((s.lifecycle.hooks.take s.lifecycle.started).filterMap
        fun g ↦ g.onStop.map Prod.fst).reverse := numbers_drain s.lifecycle
  obtain ⟨hsorted, hlow⟩ := (hfit.kept.take s.lifecycle.started).numbers_lt
  have new {n : Nat} (hn : n ∈ Slot.queue
      ⟨verb, .unwind cause s.lifecycle.drain.1 [], job, false⟩) :
      s.taken ≤ n ∧ (s.callback? .stop n).isSome := by
    rw [hqueue, List.mem_reverse] at hn
    refine ⟨hlow n hn, ?_⟩
    obtain ⟨g, hg, hgn⟩ := List.mem_filterMap.mp hn
    obtain ⟨c, hc, rfl⟩ := Option.map_eq_some_iff.mp hgn
    obtain ⟨p, hp⟩ := List.getElem?_of_mem hg
    obtain ⟨h₀, ha, _, hstop, _⟩ := hfit.kept.take _ p g hp
    rw [hc] at hstop
    obtain ⟨callback, hcb, he⟩ := Option.map_eq_some_iff.mp hstop.symm
    obtain rfl := he
    simp [callback?, ha, hcb]
  -- The numbers that the call holds now are those of hooks that were still there, and the numbers
  -- that other calls hold are those of hooks that had been taken out before.
  have cases_queued {j n : Nat} (hj : Queued { s with
      lifecycle := s.lifecycle.drain.2
      slots := s.slots.set i ⟨verb, .unwind cause s.lifecycle.drain.1 [], job, false⟩
      taken := s.taken + s.lifecycle.started } j n) :
      (j = i ∧ s.taken ≤ n ∧ (s.callback? .stop n).isSome) ∨ (n < s.taken ∧ s.Queued j n) := by
    rcases queued_set hi hj with ⟨rfl, hn⟩ | ⟨_, hold⟩
    · exact .inl ⟨rfl, new hn⟩
    · exact .inr ⟨hfit.lt_of_queued hold, hold⟩
  constructor
  case armed =>
    intro p g hg hs hm
    simp only [Lifecycle.drain, List.getElem?_drop] at hg
    rw [Nat.add_assoc] at hm
    exact h.armed _ g hg hs hm
  case called =>
    exact h.called
  case gone =>
    intro n hm
    exact Nat.lt_of_lt_of_le (h.gone n hm) (Nat.le_add_right _ _)
  case queued =>
    intro j n hj
    rcases cases_queued hj with ⟨_, hge, hsome⟩ | ⟨_, hold⟩
    · exact ⟨hsome, fun hm ↦ Nat.not_lt.mpr hge (h.gone n hm)⟩
    · exact h.queued j n hold
  case apart =>
    intro j k n hj hk
    rcases cases_queued hj with ⟨rfl, hge, _⟩ | ⟨hlt, hold⟩ <;>
      rcases cases_queued hk with ⟨rfl, hge', _⟩ | ⟨hlt', hold'⟩
    · rfl
    · omega
    · omega
    · exact h.apart j k n hold hold'
  case distinct =>
    refine forall_set ?_ fun j slot _ hj ↦ h.distinct j slot hj
    rw [hqueue, List.nodup_reverse]
    exact hsorted.imp Nat.ne_of_lt
  case once =>
    exact h.once

theorem Unspent.step (h : Unspent s) (hfit : Fit s) {m : Move κ} (hst : Step s m s') :
    Unspent s' := by
  cases hst with
  | take hs => exact h.take hfit _ _
  | join hs hh => exact h.take hfit _ _
  | make =>
    have before {j n : Nat} {verb : Verb} (hj : Queued { s with
        slots := s.slots ++ [{ verb, call := .enter verb }] } j n) : s.Queued j n := by
      obtain ⟨slot, hslot, hn⟩ := hj
      simp only [List.getElem?_append] at hslot
      split at hslot
      · exact ⟨slot, hslot, hn⟩
      · obtain rfl := List.mem_singleton.mp (List.mem_of_getElem? hslot)
        cases hn
    exact ⟨h.armed, h.called, h.gone, fun j n hj ↦ h.queued j n (before hj),
      fun j k n hj hk ↦ h.apart j k n (before hj) (before hk),
      forall_append (fun _ ↦ List.nodup_nil) h.distinct, h.once⟩
  | invoke hi hg hn => exact h.invoke hfit hi hg hn
  | drain hi => exact h.drain hfit hi
  | stop hi => exact h.stop hfit hi
  | start hi | refuse hi | pass hi | reach hi | skip hi | count hi | settle hi
  | pop hi | empty hi | close hi | begun hi | failed hi | ended hi | drop hi =>
    exact h.goOn hi rfl (List.Sublist.refl _) rfl

theorem unspent_run (ms : List (Move κ)) : Unspent (run ms) :=
  run_induction ms .start fun before _ _ _ h hst ↦ h.step (fit_run before) hst

section Departures

def departing (s : Scene κ) : Move κ → List (Hook (Nat × κ))
  | .turn i => match s.slots[i]? with
    | some ⟨_, .drain _, _, false⟩ => s.lifecycle.hooks.take s.lifecycle.started
    | _ => []
  | _ => []

def drainedFrom : Scene κ → List (Move κ) → List (Hook (Nat × κ))
  | _, [] => []
  | s, m :: ms => s.departing m ++ drainedFrom (s.act m) ms

def drained (ms : List (Move κ)) : List (Hook (Nat × κ)) := drainedFrom {} ms

theorem drained_concat (ms : List (Move κ)) (m : Move κ) :
    drained (ms ++ [m]) = drained ms ++ (run ms).departing m := by
  have from_any (s : Scene κ) :
      drainedFrom s (ms ++ [m]) = drainedFrom s ms ++ (ms.foldl act s).departing m := by
    induction ms generalizing s with
    | nil => simp [drainedFrom]
    | cons m' ms ih => simp [drainedFrom, ih]
  exact from_any {}

theorem departing_of_act_eq {m : Move κ} (h : s.act m = s) : s.departing m = [] := by
  cases m with
  | turn i =>
    simp only [departing]
    split
    · next verb cause job hi =>
      have hslots : (s.act (.turn i)).slots[i]? =
          some ⟨verb, .unwind cause s.lifecycle.drain.1 [], job, false⟩ := by
        simp only [act, turn, Call.turn, hi, Bool.false_eq_true, if_false]
        exact List.getElem?_set_self (List.getElem?_eq_some_iff.mp hi).1
      rw [h, hi] at hslots
      cases hslots
    · rfl
  | _ => rfl

theorem Fit.kept_departing (h : Fit s) {m : Move κ} (hst : Step s m s')
    {gone : List (Hook (Nat × κ))} (hk : Kept gone s.accepted 0) (hl : gone.length = s.taken) :
    Kept (gone ++ s.departing m) s'.accepted 0 ∧ (gone ++ s.departing m).length = s'.taken := by
  have still (hd : s.departing m = []) (ha : s'.accepted = s.accepted) (ht : s'.taken = s.taken) :
      Kept (gone ++ s.departing m) s'.accepted 0 ∧
        (gone ++ s.departing m).length = s'.taken := by
    rw [hd, List.append_nil, ha, ht]
    exact ⟨hk, hl⟩
  cases hst with
  | take | join =>
    rw [show s.departing (.append _) = [] from rfl, List.append_nil]
    exact ⟨hk.grow _, hl⟩
  | make => exact still rfl rfl rfl
  | @drain i verb job cause hi =>
    have hd : s.departing (.turn i) = s.lifecycle.hooks.take s.lifecycle.started := by
      simp [departing, hi]
    have hfront : Kept (s.lifecycle.hooks.take s.lifecycle.started) s.accepted
        (0 + gone.length) := by
      rw [Nat.zero_add, hl]
      exact h.kept.take _
    rw [hd]
    exact ⟨hk.join hfront, by simp [hl]⟩
  | begun | failed | ended | drop => exact still rfl rfl rfl
  | start hi _ | refuse hi _ | pass hi _ | reach hi _ | skip hi _ _ | invoke hi _ _ | count hi
  | settle hi | pop hi | stop hi | empty hi | close hi =>
    exact still (by simp [departing, hi]) rfl rfl

theorem kept_drained (ms : List (Move κ)) :
    Kept (drained ms) (run ms).accepted 0 ∧ (drained ms).length = (run ms).taken := by
  induction ms using List.reverseRecOn with
  | nil => exact ⟨nofun, rfl⟩
  | append_singleton ms m ih =>
    obtain ⟨hk, hl⟩ := ih
    rw [drained_concat, run_concat]
    rcases (run ms).act_cases m with he | hst
    · rw [departing_of_act_eq he, List.append_nil, he]
      exact ⟨hk, hl⟩
    · exact (fit_run ms).kept_departing hst hk hl

end Departures

section Refusals

theorem state_ne_idle_act (h : s.lifecycle.state ≠ .idle) (m : Move κ) :
    (s.act m).lifecycle.state ≠ .idle := by
  rcases s.act_cases m with he | hst
  · rw [he]
    exact h
  · generalize s.act m = s' at hst
    cases hst with
    | start | settle | drain | close => exact nofun
    | _ => exact h

theorem state_ne_idle_run {first : List (Move κ)} (h : (run first).lifecycle.state ≠ .idle)
    (more : List (Move κ)) : (run (first ++ more)).lifecycle.state ≠ .idle := by
  induction more using List.reverseRecOn with
  | nil => simpa using h
  | append_singleton more m ih =>
    rw [← List.append_assoc, run_concat]
    exact state_ne_idle_act ih m

def Opening (s : Scene κ) (i : Nat) : Prop :=
  s.lifecycle.state = .idle ∧ ∃ verb job, s.slots[i]? = some ⟨verb, .enter .start, job, false⟩

theorem Opening.act_turn {i : Nat} (h : s.Opening i) :
    (s.act (.turn i)).lifecycle.state = .starting := by
  obtain ⟨hs, verb, job, hi⟩ := h
  simp [act, turn, Call.turn, enterStart, hi, hs]

def outside : Call (Nat × κ) → Bool
  | .enter _ => true
  | .done (.error e) => e.rejects
  | _ => false

theorem outside_verdict (cause : Option Failure) (failures : List Failure) :
    outside (.done (Call.verdict cause failures) : Call (Nat × κ)) = false := by
  cases cause <;> cases failures <;> rfl

theorem Step.lifecycle_of_outside {m : Move κ} (hst : Step s m s') {i : Nat}
    (hm : m.caller? = some i)
    (ho : ∀ slot, s'.slots[i]? = some slot → outside slot.call) :
    s'.lifecycle = s.lifecycle ∧ ∀ slot, s.slots[i]? = some slot → outside slot.call := by
  have after {j : Nat} {old new : Slot κ} (hj : s.slots[j]? = some old) (he : j = i)
      (hset : ∀ slot, (s.slots.set j new)[i]? = some slot → outside slot.call) :
      outside new.call := by
    subst he
    exact hset new (List.getElem?_set_self (List.getElem?_eq_some_iff.mp hj).1)
  cases hst with
  | take | join | make => cases hm
  | refuse hj _ =>
    obtain rfl := Option.some_inj.mp hm
    refine ⟨rfl, fun slot hi ↦ ?_⟩
    obtain rfl := Option.some_inj.mp (hj.symm.trans hi)
    rfl
  | @drop j old hj hw =>
    obtain rfl := Option.some_inj.mp hm
    refine ⟨rfl, fun slot hi ↦ ?_⟩
    obtain rfl := Option.some_inj.mp (hj.symm.trans hi)
    have hout : outside (Slot.call { old with dropped := true }) := after hj rfl ho
    exact hout
  | start hj _ | pass hj _ | reach hj _ | skip hj _ _ | invoke hj _ _ | count hj | settle hj
  | drain hj | pop hj | stop hj | empty hj | begun hj | failed hj | ended hj _ =>
    exact nomatch after hj (Option.some_inj.mp hm) ho
  | @close j verb job cause failures hj =>
    have hout := after hj (Option.some_inj.mp hm) ho
    rw [outside_verdict] at hout
    cases hout

theorem lifecycle_of_outside (ms : List (Move κ)) {i : Nat}
    (ho : ∀ slot, (run ms).slots[i]? = some slot → outside slot.call) :
    ∀ before m after, ms = before ++ m :: after → m.caller? = some i →
      (run (before ++ [m])).lifecycle = (run before).lifecycle := by
  induction ms using List.reverseRecOn with
  | nil => simp
  | append_singleton ms m ih =>
    have last : (m.caller? = some i → (run (ms ++ [m])).lifecycle = (run ms).lifecycle) ∧
        ∀ slot, (run ms).slots[i]? = some slot → outside slot.call := by
      rw [run_concat] at ho ⊢
      rcases (run ms).act_cases m with he | hst
      · rw [he] at ho ⊢
        exact ⟨fun _ ↦ rfl, ho⟩
      · by_cases hm : m.caller? = some i
        · obtain ⟨hl, hold⟩ := hst.lifecycle_of_outside hm ho
          exact ⟨fun _ ↦ hl, hold⟩
        · refine ⟨fun h ↦ absurd h hm, fun slot hi ↦ ho slot (slots_act hi ?_ ?_ ?_)⟩
          · rintro rfl
            exact hm rfl
          · rintro result rfl
            exact hm rfl
          · rintro rfl
            exact hm rfl
    intro before m' after he hm
    rcases List.eq_nil_or_concat after with rfl | ⟨after, m'', rfl⟩
    · obtain ⟨rfl, hm'⟩ := List.append_inj' he rfl
      obtain rfl : m = m' := by simpa using hm'
      exact last.1 hm
    · rw [List.concat_eq_append, ← List.cons_append, ← List.append_assoc] at he
      obtain ⟨hmore, _⟩ := List.append_inj' he rfl
      exact ih last.2 before m' after hmore hm

end Refusals

/-- Whatever calls are made at the same time and wherever they are given up:
* at most one start call is let in;
* no more hooks count as started than there are;
* what has been taken out, followed by what is still there, is what has been registered, in order,
  with start callbacks given away;
* no callback is invoked twice, and only callbacks of registered hooks are invoked;
* a call that is turned away has changed nothing. -/
theorem once_and_in_order (ms : List (Move κ)) :
    (∀ before i between j after, ms = before ++ .turn i :: (between ++ .turn j :: after) →
      (run before).Opening i → ¬ (run (before ++ .turn i :: between)).Opening j) ∧
    (run ms).lifecycle.started ≤ (run ms).lifecycle.hooks.length ∧
    List.Forall₂ (fun h g ↦ g = h ∨ g = { h with onStart := none })
      ((run ms).accepted.mapIdx numbered) (drained ms ++ (run ms).lifecycle.hooks) ∧
    (run ms).invocations.Nodup ∧
    (∀ verb n, (verb, n) ∈ (run ms).invocations → ((run ms).callback? verb n).isSome) ∧
    (∀ (i : Nat) (slot : Slot κ) (e : Error), (run ms).slots[i]? = some slot →
      slot.call = .done (.error e) → e.rejects → ∀ before m after, ms = before ++ m :: after →
        m.caller? = some i → (run (before ++ [m])).lifecycle = (run before).lifecycle) := by
  have hfit := fit_run ms
  have hunspent := unspent_run ms
  obtain ⟨hkept, hlength⟩ := kept_drained ms
  refine ⟨fun before i between j after _ hopen hopen' ↦ ?_, hfit.bound, ?_, hunspent.once,
    hunspent.called, fun i slot e hi hc he ↦ lifecycle_of_outside ms fun slot' hi' ↦ ?_⟩
  · have hs : (run (before ++ [.turn i])).lifecycle.state ≠ .idle := by
      rw [run_concat, hopen.act_turn]
      exact nofun
    have hlater := state_ne_idle_run hs between
    rw [List.append_assoc] at hlater
    exact hlater hopen'.1
  · refine Kept.forall₂ (hkept.join ?_) ?_
    · rw [Nat.zero_add, hlength]
      exact hfit.kept
    · rw [hfit.counted, List.length_append, hlength]
  · obtain rfl := Option.some_inj.mp (hi.symm.trans hi')
    rw [hc]
    exact he

end Scene

end Telemetry.Lifecycle
