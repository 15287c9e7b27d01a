import Telemetry.Proofs.Lifecycle.Schedule

namespace Telemetry.Lifecycle

variable {κ : Type}

/-- The hooks of a lifecycle are what is left of the registered ones after `taken` of them, at most
without their start callbacks. -/
def Kept (hooks : List (Hook (Nat × κ))) (accepted : List (Hook κ)) (taken : Nat) : Prop :=
  ∀ p g, hooks[p]? = some g → ∃ h, accepted[taken + p]? = some h ∧ g.name = h.name ∧
    g.onStop = h.onStop.map (taken + p, ·) ∧
    (g.onStart = none ∨ g.onStart = h.onStart.map (taken + p, ·))

namespace Kept

variable {hooks : List (Hook (Nat × κ))} {accepted : List (Hook κ)} {taken : Nat}

theorem append (h : Kept hooks accepted taken) (hc : accepted.length = taken + hooks.length)
    (new : Hook κ) : Kept (hooks ++ [numbered accepted.length new]) (accepted ++ [new]) taken := by
  intro p g hg
  rcases Nat.lt_or_ge p hooks.length with hlt | hge
  · rw [List.getElem?_append_left hlt] at hg
    rw [List.getElem?_append_left (by omega)]
    exact h p g hg
  · rw [List.getElem?_append_right hge] at hg
    obtain rfl : p = hooks.length := by
      have hlt := (List.getElem?_eq_some_iff.mp hg).1
      simp only [List.length_singleton] at hlt
      omega
    obtain rfl : numbered accepted.length new = g := by simpa using hg
    refine ⟨new, ?_, rfl, ?_, .inr ?_⟩
    · rw [← hc]
      simp
    · rw [← hc]
      rfl
    · rw [← hc]
      rfl

theorem disarm (h : Kept hooks accepted taken) {p : Nat} {g : Hook (Nat × κ)}
    (hg : hooks[p]? = some g) : Kept (hooks.set p { g with onStart := none }) accepted taken := by
  intro q g' hg'
  by_cases hpq : p = q
  · subst hpq
    rw [List.getElem?_set_self (List.getElem?_eq_some_iff.mp hg).1] at hg'
    cases hg'
    obtain ⟨h₀, ha, hname, hstop, _⟩ := h p g hg
    exact ⟨h₀, ha, hname, hstop, .inl rfl⟩
  · rw [List.getElem?_set_ne hpq] at hg'
    exact h q g' hg'

theorem drop (h : Kept hooks accepted taken) (n : Nat) :
    Kept (hooks.drop n) accepted (taken + n) := by
  intro p g hg
  rw [List.getElem?_drop] at hg
  obtain ⟨h₀, ha⟩ := h (n + p) g hg
  rw [← Nat.add_assoc] at ha
  exact ⟨h₀, ha⟩

end Kept

namespace Scene

def Over (s : Scene κ) : Prop := s.lifecycle.state = .stopping ∨ s.lifecycle.state = .stopped

def Gone (s : Scene κ) (stops : List (String × Option (Nat × κ))) : Prop :=
  ∀ e ∈ stops, ∀ c ∈ e.2, c.1 < s.taken

/-- Where a call can be, given what the lifecycle is like. -/
def Fits (s : Scene κ) (slot : Slot κ) : Prop :=
  match slot.call with
  | .enter _ | .done _ => True
  | .seek | .settle | .drain (some _) => s.lifecycle.state = .starting
  | .starting _ => s.lifecycle.state = .starting ∧
      s.lifecycle.started < s.lifecycle.hooks.length ∧
      slot.job = some (s.taken + s.lifecycle.started)
  | .count => s.lifecycle.state = .starting ∧ s.lifecycle.started < s.lifecycle.hooks.length
  | .drain none => s.lifecycle.state = .running ∨ s.Over
  | .unwind _ rest _ => s.Over ∧ s.Gone rest
  | .stopping _ _ rest _ => s.Over ∧ s.Gone rest ∧ ∃ n, n < s.taken ∧ slot.job = some n
  | .close .. => s.Over

def Alone (kind : Call (Nat × κ) → Bool) (slots : List (Slot κ)) : Prop :=
  ∀ (i j : Nat) (a b : Slot κ), slots[i]? = some a → slots[j]? = some b →
    kind a.call → kind b.call → i = j

/-- What is true after every move. -/
structure Fit (s : Scene κ) : Prop where
  fits : ∀ (i : Nat) (slot : Slot κ), s.slots[i]? = some slot → s.Fits slot
  alone : s.lifecycle.state = .starting → Alone Call.active s.slots
  bound : s.lifecycle.started ≤ s.lifecycle.hooks.length
  counted : s.accepted.length = s.taken + s.lifecycle.hooks.length
  kept : Kept s.lifecycle.hooks s.accepted s.taken

variable {s s' : Scene κ} {slot : Slot κ}

theorem Alone.eq_false {kind : Call (Nat × κ) → Bool} {slots : List (Slot κ)}
    (h : Alone kind slots) {i j : Nat} {other : Slot κ} (hi : slots[i]? = some slot)
    (ha : kind slot.call = true) (hij : j ≠ i) (hj : slots[j]? = some other) :
    kind other.call = false :=
  Bool.eq_false_iff.mpr fun ho ↦ hij (h j i other slot hj hi ho ha)

theorem Fits.of_inactive (h : slot.call.active = false) : s'.Fits slot := by
  obtain ⟨verb, call, job, dropped⟩ := slot
  cases call <;> trivial

theorem Fits.frame (h : s.Fits slot) (hs : s'.lifecycle.state = s.lifecycle.state)
    (hn : s'.lifecycle.started = s.lifecycle.started)
    (hl : s.lifecycle.hooks.length ≤ s'.lifecycle.hooks.length) (ht : s'.taken = s.taken) :
    s'.Fits slot := by
  obtain ⟨verb, call, job, dropped⟩ := slot
  cases call with
  | drain cause => cases cause <;> simp_all [Fits, Over]
  | starting name => exact ⟨hs.trans h.1, by have := h.2.1; omega, by rw [ht, hn]; exact h.2.2⟩
  | count => exact ⟨hs.trans h.1, by have := h.2; omega⟩
  | unwind | stopping => simpa only [Fits, Over, Gone, hs, ht] using h
  | _ => simp_all [Fits, Over]

theorem Fits.later (h : s.Fits slot) (hs : s.lifecycle.state ≠ .starting)
    (hs' : s'.lifecycle.state = .running ∨ s'.Over) (ho : s.Over → s'.Over)
    (ht : s.taken ≤ s'.taken) : s'.Fits slot := by
  obtain ⟨verb, call, job, dropped⟩ := slot
  have gone (rest : List (String × Option (Nat × κ))) (hr : s.Gone rest) : s'.Gone rest :=
    fun e he c hc ↦ Nat.lt_of_lt_of_le (hr e he c hc) ht
  cases call with
  | enter | done => trivial
  | seek | settle => exact absurd h hs
  | starting | count => exact absurd h.1 hs
  | drain cause => cases cause with
    | none => exact hs'
    | some f => exact absurd h hs
  | unwind cause rest failures => exact ⟨ho h.1, gone rest h.2⟩
  | stopping cause name rest failures =>
    obtain ⟨hov, hr, n, hn, hj⟩ := h
    exact ⟨ho hov, gone rest hr, n, Nat.lt_of_lt_of_le hn ht, hj⟩
  | close => exact ho h

theorem forall_set {P : Nat → Slot κ → Prop} {slots : List (Slot κ)} {i : Nat} {new : Slot κ}
    (hnew : P i new)
    (hold : ∀ (j : Nat) (slot : Slot κ), j ≠ i → slots[j]? = some slot → P j slot) :
    ∀ (j : Nat) (slot : Slot κ), (slots.set i new)[j]? = some slot → P j slot := by
  intro j slot hj
  by_cases hij : i = j
  · subst hij
    rw [List.getElem?_set] at hj
    split at hj
    · split at hj
      · cases hj
        exact hnew
      · cases hj
    · contradiction
  · rw [List.getElem?_set_ne hij] at hj
    exact hold j slot (Ne.symm hij) hj

theorem forall_append {P : Nat → Slot κ → Prop} {slots : List (Slot κ)} {new : Slot κ}
    (hnew : ∀ j, P j new) (hold : ∀ (j : Nat) (slot : Slot κ), slots[j]? = some slot → P j slot) :
    ∀ (j : Nat) (slot : Slot κ), (slots ++ [new])[j]? = some slot → P j slot := by
  intro j slot hj
  rw [List.getElem?_append] at hj
  split at hj
  · exact hold j slot hj
  · obtain rfl : new = slot := by simpa [eq_comm] using List.mem_of_getElem? hj
    exact hnew j

theorem Fit.inactive_of_idle (h : Fit s) (hs : s.lifecycle.state = .idle) {i : Nat}
    (hi : s.slots[i]? = some slot) : slot.call.active = false := by
  have hf := h.fits i slot hi
  obtain ⟨verb, call, job, dropped⟩ := slot
  cases call with
  | enter | done => rfl
  | drain cause => cases cause <;> simp_all [Fits, Over]
  | _ => simp_all [Fits, Over]

theorem Fit.inactive_of_starting (h : Fit s) (hs : s.lifecycle.state = .starting) {i j : Nat}
    {other : Slot κ} (hi : s.slots[i]? = some slot) (ha : slot.call.active = true) (hij : j ≠ i)
    (hj : s.slots[j]? = some other) : other.call.active = false :=
  (h.alone hs).eq_false hi ha hij hj

namespace Alone

variable {kind : Call (Nat × κ) → Bool} {slots : List (Slot κ)}

theorem set (h : Alone kind slots) {i : Nat} {old new : Slot κ} (hi : slots[i]? = some old)
    (ha : kind new.call → kind old.call) : Alone kind (slots.set i new) := by
  have before (j : Nat) (a : Slot κ) (hj : (slots.set i new)[j]? = some a) (hb : kind a.call) :
      ∃ b, slots[j]? = some b ∧ kind b.call := by
    by_cases hij : i = j
    · subst hij
      rw [List.getElem?_set_self (List.getElem?_eq_some_iff.mp hi).1] at hj
      cases hj
      exact ⟨old, hi, ha hb⟩
    · rw [List.getElem?_set_ne hij] at hj
      exact ⟨a, hj, hb⟩
  intro j k a b hj hk hja hkb
  obtain ⟨a', ha', hja'⟩ := before j a hj hja
  obtain ⟨b', hb', hkb'⟩ := before k b hk hkb
  exact h j k a' b' ha' hb' hja' hkb'

theorem of_others {i : Nat} {new : Slot κ}
    (h : ∀ (j : Nat) (slot : Slot κ), j ≠ i → slots[j]? = some slot → kind slot.call = false) :
    Alone kind (slots.set i new) := by
  have only (j : Nat) (a : Slot κ) (hj : (slots.set i new)[j]? = some a) (ha : kind a.call) :
      j = i := by
    by_cases hij : j = i
    · exact hij
    · rw [List.getElem?_set_ne (Ne.symm hij)] at hj
      rw [h j a hij hj] at ha
      cases ha
  intro j k a b hj hk ha hb
  rw [only j a hj ha, only k b hk hb]

theorem append (h : Alone kind slots) {new : Slot κ} (hn : kind new.call = false) :
    Alone kind (slots ++ [new]) := by
  have before (j : Nat) (a : Slot κ) (hj : (slots ++ [new])[j]? = some a) (ha : kind a.call) :
      slots[j]? = some a := by
    rw [List.getElem?_append] at hj
    split at hj
    · exact hj
    · obtain rfl : new = a := by
        have hm := List.mem_of_getElem? hj
        simpa [eq_comm] using hm
      rw [hn] at ha
      cases ha
  intro j k a b hj hk ha hb
  exact h j k a b (before j a hj ha) (before k b hk hb) ha hb

end Alone

theorem Fit.start : Fit ({} : Scene κ) where
  fits i slot h := by simp at h
  alone h := by cases h
  bound := Nat.le_refl _
  counted := rfl
  kept p g h := by simp at h

theorem Fit.goOn (h : Fit s) {i : Nat} {old new : Slot κ} {log : List Note}
    (hi : s.slots[i]? = some old) (hf : s.Fits new)
    (ha : s.lifecycle.state = .starting → new.call.active → old.call.active) :
    Fit { s with slots := s.slots.set i new, log } where
  fits := forall_set (hf.frame rfl rfl (Nat.le_refl _) rfl) fun j slot _ hj ↦
    (h.fits j slot hj).frame rfl rfl (Nat.le_refl _) rfl
  alone hs := (h.alone hs).set hi (ha hs)
  bound := h.bound
  counted := h.counted
  kept := h.kept

theorem Fit.take (h : Fit s) {new : Hook κ} {started : Nat}
    (hb : started ≤ s.lifecycle.hooks.length + 1)
    (hf : ∀ (j : Nat) (slot : Slot κ), s.slots[j]? = some slot →
      Fits { s with
        lifecycle := { s.lifecycle with
          hooks := s.lifecycle.hooks ++ [numbered s.accepted.length new], started }
        accepted := s.accepted ++ [new] } slot) :
    Fit { s with
      lifecycle := { s.lifecycle with
        hooks := s.lifecycle.hooks ++ [numbered s.accepted.length new], started }
      accepted := s.accepted ++ [new] } where
  fits := hf
  alone := h.alone
  bound := by simpa using hb
  counted := by
    have hc := h.counted
    simp only [List.length_append, List.length_singleton]
    omega
  kept := h.kept.append h.counted new

theorem Fit.shift (h : Fit s) {i : Nat} {new : Slot κ} {state : State} {log : List Note}
    (hf : Fits { s with lifecycle := { s.lifecycle with state } } new)
    (ho : ∀ (j : Nat) (slot : Slot κ), j ≠ i → s.slots[j]? = some slot →
      Fits { s with lifecycle := { s.lifecycle with state } } slot)
    (ha : state = .starting →
      ∀ (j : Nat) (slot : Slot κ), j ≠ i → s.slots[j]? = some slot → slot.call.active = false) :
    Fit { s with
      lifecycle := { s.lifecycle with state }, slots := s.slots.set i new, log } where
  fits := forall_set (hf.frame rfl rfl (Nat.le_refl _) rfl) fun j slot hij hj ↦
    (ho j slot hij hj).frame rfl rfl (Nat.le_refl _) rfl
  alone hs := .of_others (ha hs)
  bound := h.bound
  counted := h.counted
  kept := h.kept

theorem Fit.gone_drain (h : Fit s) {e : String × Option (Nat × κ)} (he : e ∈ s.lifecycle.drain.1)
    {c : Nat × κ} (hc : c ∈ e.2) : ∃ p, c.1 = s.taken + p ∧ p < s.lifecycle.started := by
  simp only [Lifecycle.drain, List.mem_map, List.mem_reverse] at he
  obtain ⟨g, hg, rfl⟩ := he
  obtain ⟨p, hp⟩ := List.getElem?_of_mem hg
  rw [List.getElem?_take] at hp
  split at hp
  · obtain ⟨h₀, _, _, hstop, _⟩ := h.kept p g hp
    rw [hstop] at hc
    obtain ⟨callback, _, rfl⟩ := Option.map_eq_some_iff.mp hc
    exact ⟨p, rfl, by assumption⟩
  · cases hp

theorem Fit.drain (h : Fit s) {i : Nat} {verb : Verb} {job : Option Nat} {cause : Option Failure}
    (hi : s.slots[i]? = some ⟨verb, .drain cause, job, false⟩) :
    Fit { s with
      lifecycle := s.lifecycle.drain.2
      slots := s.slots.set i ⟨verb, .unwind cause s.lifecycle.drain.1 [], job, false⟩
      taken := s.taken + min s.lifecycle.started s.lifecycle.hooks.length } := by
  have hmin : min s.lifecycle.started s.lifecycle.hooks.length = s.lifecycle.started :=
    Nat.min_eq_left h.bound
  rw [hmin]
  refine ⟨forall_set ⟨.inl rfl, fun e he c hc ↦ ?_⟩ fun j slot hij hj ↦ ?_, fun hs ↦ ?_,
    Nat.zero_le _, ?_, h.kept.drop _⟩
  · obtain ⟨p, hp, hlt⟩ := h.gone_drain he hc
    simp only
    omega
  · -- The other calls have been let in by a running lifecycle, or this one is alone.
    have hf := h.fits i _ hi
    cases cause with
    | none =>
      refine (h.fits j slot hj).later ?_ (.inr (.inl rfl)) (fun _ ↦ .inl rfl) (Nat.le_add_right _ _)
      rcases hf with hf | hf | hf <;> simp [hf]
    | some f => exact .of_inactive (h.inactive_of_starting hf hi rfl hij hj)
  · cases hs
  · have hc := h.counted
    have hb := h.bound
    simp only [Lifecycle.drain, List.length_drop]
    omega

theorem Fit.step (h : Fit s) {m : Move κ} (hst : Step s m s') : Fit s' := by
  cases hst with
  | @take new hs =>
    have hb := h.bound
    refine h.take (by omega) fun j slot hj ↦ (h.fits j slot hj).frame rfl rfl ?_ rfl
    simp
  | @join new hs hh =>
    refine h.take (Nat.le_refl _) fun j slot hj ↦ (h.fits j slot hj).later ?_ (.inl hs) id
      (Nat.le_refl _)
    simp [hs]
  | make =>
    exact ⟨forall_append (fun _ ↦ trivial) fun j slot hj ↦
        (h.fits j slot hj).frame rfl rfl (Nat.le_refl _) rfl,
      fun hs ↦ (h.alone hs).append rfl, h.bound, h.counted, h.kept⟩
  | start hi hs =>
    exact h.shift rfl (fun j slot _ hj ↦ .of_inactive (h.inactive_of_idle hs hj))
      fun _ j slot _ hj ↦ h.inactive_of_idle hs hj
  | refuse hi _ => exact h.goOn hi trivial fun _ ha ↦ by cases ha
  | pass hi hs => exact h.goOn hi (.inl hs) fun hst ↦ by simp [hs] at hst
  | reach hi _ =>
    have hs : s.lifecycle.state = .starting := h.fits _ _ hi
    exact h.goOn hi hs fun _ _ ↦ rfl
  | skip hi hg _ =>
    exact h.goOn hi ⟨h.fits _ _ hi, (List.getElem?_eq_some_iff.mp hg).1⟩ fun _ _ ↦ rfl
  | @invoke i n verb job g callback hi hg hn =>
    have hs : s.lifecycle.state = .starting := h.fits _ _ hi
    have hlt := (List.getElem?_eq_some_iff.mp hg).1
    have hnum : n = s.taken + s.lifecycle.started := by
      obtain ⟨h₀, _, _, _, hstart⟩ := h.kept _ _ hg
      rw [hn] at hstart
      rcases hstart with hstart | hstart
      · cases hstart
      · obtain ⟨_, _, he⟩ := Option.map_eq_some_iff.mp hstart.symm
        exact (Prod.mk.inj he).1.symm
    refine ⟨forall_set ⟨hs, by simpa using hlt, by rw [hnum]⟩ fun j slot hij hj ↦ ?_,
      fun hst ↦ (h.alone hst).set hi fun _ ↦ rfl, by simpa using h.bound, by simpa using h.counted,
      h.kept.disarm hg⟩
    exact .of_inactive (h.inactive_of_starting hs hi rfl hij hj)
  | @count i verb job hi =>
    obtain ⟨hs, hlt⟩ := h.fits _ _ hi
    refine ⟨forall_set hs fun j slot hij hj ↦ ?_, fun hst ↦ (h.alone hst).set hi fun _ ↦ rfl,
      hlt, h.counted, h.kept⟩
    exact .of_inactive (h.inactive_of_starting hs hi rfl hij hj)
  | settle hi =>
    have hs : s.lifecycle.state = .starting := h.fits _ _ hi
    exact h.shift trivial
      (fun j slot hij hj ↦ .of_inactive (h.inactive_of_starting hs hi rfl hij hj)) nofun
  | drain hi => exact h.drain hi
  | pop hi =>
    obtain ⟨ho, hg⟩ := h.fits _ _ hi
    exact h.goOn hi ⟨ho, fun e he ↦ hg e (List.mem_cons_of_mem _ he)⟩ fun _ _ ↦ rfl
  | @stop i n verb job cause name callback rest failures hi =>
    obtain ⟨ho, hg⟩ := h.fits _ _ hi
    have hn : n < s.taken := hg _ List.mem_cons_self (n, callback) rfl
    exact h.goOn hi ⟨ho, fun e he ↦ hg e (List.mem_cons_of_mem _ he), n, hn, rfl⟩ fun _ _ ↦ rfl
  | empty hi => exact h.goOn hi (h.fits _ _ hi).1 fun _ _ ↦ rfl
  | close hi =>
    have ho := h.fits _ _ hi
    refine h.shift trivial (fun j slot _ hj ↦ ?_) nofun
    refine (h.fits j slot hj).later ?_ (.inr (.inr rfl)) (fun _ ↦ .inr rfl) (Nat.le_refl _)
    rcases ho with ho | ho <;> simp [ho]
  | begun hi =>
    obtain ⟨hs, hlt, _⟩ := h.fits _ _ hi
    exact h.goOn hi ⟨hs, hlt⟩ fun _ _ ↦ rfl
  | failed hi => exact h.goOn hi (h.fits _ _ hi).1 fun _ _ ↦ rfl
  | ended hi _ =>
    obtain ⟨ho, hg, _⟩ := h.fits _ _ hi
    exact h.goOn hi ⟨ho, hg⟩ fun _ _ ↦ rfl
  | drop hi _ =>
    have hf := h.fits _ _ hi
    exact h.goOn hi hf fun _ ha ↦ ha

theorem fit_run (ms : List (Move κ)) : Fit (run ms) :=
  run_induction ms .start fun _ _ _ _ h hst ↦ h.step hst

end Scene

end Telemetry.Lifecycle
