import Telemetry.Proofs.Lifecycle.Once

namespace Telemetry.Lifecycle

variable {κ : Type}

def Verb.unwinding : Option Failure → Verb
  | some _ => .start
  | none => .stop

namespace Call

def Belongs (verb : Verb) : Call κ → Prop
  | enter entered => entered = verb
  | seek | starting _ | count | settle => verb = .start
  | drain cause | unwind cause .. | stopping cause .. | close cause _ => verb = .unwinding cause
  | done (.ok _) => True
  | done (.error .alreadyStarted) | done (.error (.start _)) => verb = .start
  | done (.error (.notRunning _)) | done (.error (.stop _)) => verb = .stop

def cause? : Call κ → Option Failure
  | drain cause | unwind cause .. | stopping cause .. | close cause _ => cause
  | done (.error (.start f)) => some f
  | _ => none

theorem belongs_verdict {verb : Verb} {cause : Option Failure} {failures : List Failure}
    (h : (close cause failures : Call κ).Belongs verb) :
    (done (verdict cause failures) : Call κ).Belongs verb := by
  cases cause with
  | some f => exact h
  | none =>
    cases failures with
    | nil => trivial
    | cons => exact h

theorem cause?_verdict (cause : Option Failure) (failures : List Failure) :
    (done (verdict cause failures) : Call κ).cause? = cause := by
  cases cause <;> cases failures <;> rfl

end Call

namespace Scene

variable {s s' : Scene κ}

def Begun (slot : Slot κ) : Prop := slot.verb = .start ∧ outside slot.call = false

def Settled (slot : Slot κ) : Prop :=
  slot.call = .settle ∨ slot.verb = .start ∧ slot.call = .done (.ok ())

def Ended (s : Scene κ) (verb : Verb) (result : Except Error Unit) : Prop :=
  ∃ (i : Nat) (slot : Slot κ), s.slots[i]? = some slot ∧ slot.verb = verb ∧
    slot.call = .done result

/-- How many of the registered hooks have started or count as started, those included that have been
taken out. -/
def reached (s : Scene κ) : Nat := s.taken + s.lifecycle.started

/-- Which calls there are in each state of the lifecycle, after every move. -/
structure Told (s : Scene κ) : Prop where
  belongs : ∀ (i : Nat) (slot : Slot κ), s.slots[i]? = some slot → slot.call.Belongs slot.verb
  sole : ∀ (i j : Nat) (a b : Slot κ), s.slots[i]? = some a → s.slots[j]? = some b →
    Begun a → Begun b → i = j
  idle : s.lifecycle.state = .idle → ∀ (i : Nat) (slot : Slot κ), s.slots[i]? = some slot →
    ¬ Begun slot
  halted : s.Over → s.lifecycle.started = 0
  ended : ∀ (i : Nat) (slot : Slot κ), s.slots[i]? = some slot → ∀ result,
    slot.call = .done result → outside slot.call = false → ¬ Settled slot → s.Over

theorem Told.start : Told ({} : Scene κ) where
  belongs i slot h := by simp at h
  sole i j a b h := by simp at h
  idle _ i slot h := by simp at h
  halted h := by rcases h with h | h <;> cases h
  ended i slot h := by simp at h

theorem Told.begun_of_settled (h : Told s) {i : Nat} {slot : Slot κ} (hi : s.slots[i]? = some slot)
    (hs : Settled slot) : Begun slot := by
  have hb := h.belongs i slot hi
  obtain ⟨verb, call, job, dropped⟩ := slot
  rcases hs with rfl | ⟨rfl, rfl⟩
  · exact ⟨hb, rfl⟩
  · exact ⟨rfl, rfl⟩

theorem Told.begun_of_cause (h : Told s) {i : Nat} {slot : Slot κ} (hi : s.slots[i]? = some slot)
    {f : Failure} (hc : slot.call.cause? = some f) : Begun slot := by
  have hb := h.belongs i slot hi
  obtain ⟨verb, call, job, dropped⟩ := slot
  cases call with
  | drain cause | unwind cause | stopping cause | close cause =>
    obtain rfl : cause = some f := hc
    exact ⟨hb, rfl⟩
  | done result =>
    cases result with
    | ok => cases hc
    | error e => cases e with
      | start => exact ⟨hb, rfl⟩
      | _ => cases hc
  | _ => cases hc

theorem Fit.over_step (h : Fit s) (ho : s.Over) {m : Move κ} (hst : Step s m s') : s'.Over := by
  cases hst with
  | start hi hs =>
    rcases ho with ho | ho <;> rw [hs] at ho <;> cases ho
  | settle hi =>
    have hs : s.lifecycle.state = .starting := h.fits _ _ hi
    rcases ho with ho | ho <;> rw [hs] at ho <;> cases ho
  | drain => exact .inl rfl
  | close => exact .inr rfl
  | _ => exact ho

theorem Told.set (h : Told s) {i : Nat} {old new : Slot κ} {lifecycle : Lifecycle (Nat × κ)}
    {taken : Nat} {log : List Note} (hi : s.slots[i]? = some old)
    (hb : old.call.Belongs old.verb → new.call.Belongs new.verb)
    (hnew : Begun new → Begun old ∨ s.lifecycle.state = .idle)
    (hidle : lifecycle.state = .idle → s.lifecycle.state = .idle ∧ ¬ Begun new)
    (hover : s.Over → lifecycle.state = .stopping ∨ lifecycle.state = .stopped)
    (hhalt : lifecycle.state = .stopping ∨ lifecycle.state = .stopped → lifecycle.started = 0)
    (hd : ∀ result, new.call = .done result → outside new.call = false → ¬ Settled new →
      lifecycle.state = .stopping ∨ lifecycle.state = .stopped) :
    Told { s with lifecycle, slots := s.slots.set i new, taken, log } where
  belongs := forall_set (hb (h.belongs i old hi)) fun j slot _ hj ↦ h.belongs j slot hj
  sole := by
    have others : ∀ (j : Nat) (slot : Slot κ), j ≠ i → s.slots[j]? = some slot → Begun slot →
        ¬ Begun new := by
      intro j slot hij hj ha hn
      rcases hnew hn with hold | hs
      · exact hij (h.sole j i slot old hj hi ha hold)
      · exact h.idle hs j slot hj ha
    have hself := List.getElem?_set_self (a := new) (List.getElem?_eq_some_iff.mp hi).1
    intro j k a b hj hk ha hb
    by_cases hji : j = i
    · by_cases hki : k = i
      · rw [hji, hki]
      · subst hji
        obtain rfl := Option.some_inj.mp (hself.symm.trans hj)
        simp only [List.getElem?_set_ne (Ne.symm hki)] at hk
        exact absurd ha (others k b hki hk hb)
    · simp only [List.getElem?_set_ne (Ne.symm hji)] at hj
      by_cases hki : k = i
      · subst hki
        obtain rfl := Option.some_inj.mp (hself.symm.trans hk)
        exact absurd hb (others j a hji hj ha)
      · simp only [List.getElem?_set_ne (Ne.symm hki)] at hk
        exact h.sole j k a b hj hk ha hb
  idle hs := forall_set (hidle hs).2 fun j slot _ hj ↦ h.idle (hidle hs).1 j slot hj
  halted := hhalt
  ended := forall_set hd fun j slot _ hj result hc ho hs ↦ hover (h.ended j slot hj result hc ho hs)

theorem Told.over_of_ended (h : Told s) {verb : Verb} {result : Except Error Unit}
    (he : s.Ended verb result) (hr : ∀ e, result = .error e → e.rejects = false)
    (hs : ¬ (verb = .start ∧ result = .ok ())) : s.Over := by
  obtain ⟨i, slot, hi, hv, hc⟩ := he
  refine h.ended i slot hi result hc ?_ ?_
  · rw [hc]
    cases result with
    | ok => rfl
    | error e => exact hr e rfl
  · rintro (hset | ⟨hstart, hok⟩)
    · rw [hc] at hset
      cases hset
    · rw [hc] at hok
      exact hs ⟨hv.symm.trans hstart, Call.done.inj hok⟩

theorem Told.goOn (h : Told s) {i : Nat} {old new : Slot κ} {lifecycle : Lifecycle (Nat × κ)}
    {log : List Note} (hi : s.slots[i]? = some old) (hs : lifecycle.state = s.lifecycle.state)
    (hn : lifecycle.started = s.lifecycle.started)
    (hb : old.call.Belongs old.verb → new.call.Belongs new.verb)
    (hnew : Begun new → Begun old)
    (hd : ∀ result, new.call = .done result → outside new.call = false → ¬ Settled new → s.Over) :
    Told { s with lifecycle, slots := s.slots.set i new, log } := by
  refine h.set hi hb (fun hb ↦ .inl (hnew hb)) ?_ ?_ ?_ ?_
  · rw [hs]
    intro hidle
    exact ⟨hidle, fun hb ↦ h.idle hidle i old hi (hnew hb)⟩
  · rw [hs]
    exact id
  · rw [hs, hn]
    exact h.halted
  · rw [hs]
    exact hd

theorem Told.step (h : Told s) (hfit : Fit s) {m : Move κ} (hst : Step s m s') : Told s' := by
  have hover := fun ho ↦ hfit.over_step ho hst
  cases hst with
  | take hs => exact ⟨h.belongs, h.sole, h.idle, h.halted, h.ended⟩
  | join hs hh =>
    refine ⟨h.belongs, h.sole, h.idle, fun ho ↦ ?_, h.ended⟩
    rcases ho with ho | ho <;> exact nomatch hs.symm.trans ho
  | @make verb =>
    have none_begun : ¬ Begun (⟨verb, .enter verb, none, false⟩ : Slot κ) := fun hb ↦ nomatch hb.2
    refine ⟨forall_append (fun _ ↦ rfl) h.belongs, ?_,
      fun hs ↦ forall_append (fun _ ↦ none_begun) (h.idle hs), h.halted,
      forall_append (fun _ _ ↦ nofun) h.ended⟩
    intro i j a b hi hj ha hb
    have old : ∀ (k : Nat) (slot : Slot κ),
        (s.slots ++ [⟨verb, .enter verb, none, false⟩])[k]? = some slot → Begun slot →
          s.slots[k]? = some slot :=
      forall_append (fun _ hb ↦ absurd hb none_begun) fun k slot hk _ ↦ hk
    exact h.sole i j a b (old i a hi ha) (old j b hj hb) ha hb
  | start hi hs => exact h.set hi Eq.symm (fun _ ↦ .inr hs) nofun hover nofun nofun
  | refuse hi he =>
    rcases he with ⟨rfl, rfl, _⟩ | ⟨rfl, rfl, _⟩
    · exact h.goOn hi rfl rfl Eq.symm (fun hn ↦ nomatch hn.2) nofun
    · exact h.goOn hi rfl rfl Eq.symm (fun hn ↦ nomatch hn.2) nofun
  | pass hi hs =>
    have hb := h.belongs _ _ hi
    refine h.goOn hi rfl rfl Eq.symm (fun hn ↦ ?_) nofun
    exact nomatch Eq.trans hb hn.1
  | count hi =>
    have hs := (hfit.fits _ _ hi).1
    refine h.set hi id (fun hn ↦ .inl ⟨hn.1, rfl⟩) ?_ hover ?_ nofun
    · exact fun hidle ↦ nomatch hs.symm.trans hidle
    · rintro (ho | ho) <;> exact nomatch hs.symm.trans ho
  | settle hi =>
    have hb := h.belongs _ _ hi
    exact h.set hi (fun _ ↦ trivial) (fun hn ↦ .inl ⟨hn.1, rfl⟩) nofun hover nofun
      fun _ _ _ hn ↦ absurd (.inr ⟨hb, rfl⟩) hn
  | drain hi => exact h.set hi id (fun hn ↦ .inl ⟨hn.1, rfl⟩) nofun hover (fun _ ↦ rfl) nofun
  | close hi =>
    have ho := hfit.fits _ _ hi
    exact h.set hi Call.belongs_verdict (fun hn ↦ .inl ⟨hn.1, rfl⟩) nofun hover
      (fun _ ↦ h.halted ho) fun _ _ _ _ ↦ .inr rfl
  | reach hi | skip hi | invoke hi | pop hi | stop hi | empty hi | begun hi | failed hi | ended hi =>
    exact h.goOn hi rfl rfl id (fun hn ↦ ⟨hn.1, rfl⟩) nofun
  | drop hi _ =>
    have hd := h.ended _ _ hi
    exact h.goOn hi rfl rfl id id hd

theorem told_run (ms : List (Move κ)) : Told (run ms) :=
  run_induction ms .start fun before _ _ _ h hst ↦ h.step (fit_run before) hst

section Growth

theorem Step.log_mono {m : Move κ} (hst : Step s m s') : s.log <:+ s'.log := by
  cases hst with
  | pass | invoke | stop | begun | failed | ended => exact List.suffix_cons _ _
  | _ => exact List.suffix_refl _

theorem Step.accepted_mono {m : Move κ} (hst : Step s m s') : s.accepted <+: s'.accepted := by
  cases hst with
  | take | join => exact List.prefix_append _ _
  | _ => exact List.prefix_refl _

theorem Fit.reached_le (h : Fit s) {m : Move κ} (hst : Step s m s') : s.reached ≤ s'.reached := by
  have hb := h.bound
  cases hst with
  | join =>
    simp only [reached]
    omega
  | count => exact Nat.le_succ _
  | drain =>
    simp only [reached, Lifecycle.drain]
    omega
  | _ => exact Nat.le_refl _

theorem run_append_induction {P : Scene κ → Prop} (first more : List (Move κ))
    (start : P (run first))
    (step : ∀ before m s', P (run (first ++ before)) → Step (run (first ++ before)) m s' → P s') :
    P (run (first ++ more)) := by
  induction more using List.reverseRecOn with
  | nil => rwa [List.append_nil]
  | append_singleton more m ih =>
    rw [← List.append_assoc, run_concat]
    rcases (run (first ++ more)).act_cases m with he | hst
    · rwa [he]
    · exact step more m _ ih hst

theorem log_mono (first more : List (Move κ)) : (run first).log <:+ (run (first ++ more)).log := by
  apply run_append_induction (P := fun s ↦ (run first).log <:+ s.log) first more (List.suffix_refl _)
  intro before m s' h hst
  exact h.trans hst.log_mono

theorem accepted_mono (first more : List (Move κ)) :
    (run first).accepted <+: (run (first ++ more)).accepted := by
  apply run_append_induction (P := fun s ↦ (run first).accepted <+: s.accepted) first more
    (List.prefix_refl _)
  intro before m s' h hst
  exact h.trans hst.accepted_mono

theorem callback?_extend (h : s.accepted <+: s'.accepted) {n : Nat} (hn : n < s.accepted.length)
    (verb : Verb) : s'.callback? verb n = s.callback? verb n := by
  obtain ⟨more, hmore⟩ := h
  rw [callback?, callback?, ← hmore, List.getElem?_append_left hn]

theorem callback?_concat {ms : List (Move κ)} {m : Move κ} {verb : Verb} {n : Nat} {c : κ}
    (hc : (run (ms ++ [m])).callback? verb n = some c) :
    (run ms).callback? verb n = some c ∨ n = (run ms).accepted.length ∧ ∃ h, m = .append h ∧
      (verb = .start ∧ h.onStart = some c ∨ verb = .stop ∧ h.onStop = some c) := by
  have hmono := accepted_mono ms [m]
  have grown : (run (ms ++ [m])).accepted = (run ms).accepted ∨
      ∃ h, m = .append h ∧ (run (ms ++ [m])).accepted = (run ms).accepted ++ [h] := by
    rw [run_concat]
    rcases (run ms).act_cases m with he | hst
    · exact .inl (by rw [he])
    · generalize (run ms).act m = s' at hst
      cases hst with
      | take | join => exact .inr ⟨_, rfl, rfl⟩
      | _ => exact .inl rfl
  rcases Nat.lt_or_ge n (run ms).accepted.length with hn | hn
  · rw [callback?_extend hmono hn] at hc
    exact .inl hc
  · rcases grown with he | ⟨h, rfl, he⟩
    · rw [callback?, he] at hc
      exact .inl hc
    · have hlt := lt_of_callback? (Option.isSome_of_eq_some hc)
      rw [he, List.length_append, List.length_singleton] at hlt
      obtain rfl : n = (run ms).accepted.length := by omega
      refine .inr ⟨rfl, h, rfl, ?_⟩
      rw [callback?, he, List.getElem?_concat_length] at hc
      cases verb with
      | start => exact .inl ⟨rfl, hc⟩
      | stop => exact .inr ⟨rfl, hc⟩

theorem taken_of_over {first : List (Move κ)} (h : (run first).Over) (more : List (Move κ)) :
    (run (first ++ more)).Over ∧ (run (first ++ more)).taken = (run first).taken := by
  apply run_append_induction (P := fun s ↦ s.Over ∧ s.taken = (run first).taken) first more ⟨h, rfl⟩
  intro before m s' ⟨ho, ht⟩ hst
  refine ⟨(fit_run _).over_step ho hst, ?_⟩
  have hz := (told_run _).halted ho
  cases hst with
  | drain => simp only [hz, Nat.zero_min, Nat.add_zero, ht]
  | _ => exact ht

end Growth

section Counting

theorem Told.reached_eq_of_settled (h : Told s) (hfit : Fit s) {m : Move κ} (hst : Step s m s')
    (hnone : ∀ (i : Nat) (slot : Slot κ), s.slots[i]? = some slot → ¬ Settled slot) :
    ∀ (i : Nat) (slot : Slot κ), s'.slots[i]? = some slot → Settled slot →
      s'.reached = s'.accepted.length := by
  have others {i : Nat} {new : Slot κ} (hnew : ¬ Settled new) : ∀ (j : Nat) (slot : Slot κ),
      (s.slots.set i new)[j]? = some slot → Settled slot → s'.reached = s'.accepted.length :=
    forall_set (fun hs ↦ absurd hs hnew) fun j slot _ hj hs ↦ absurd hs (hnone j slot hj)
  cases hst with
  | take | join => exact fun i slot hi hs ↦ absurd hs (hnone i slot hi)
  | make =>
    refine forall_append (fun _ hs ↦ ?_) fun i slot hi hs ↦ absurd hs (hnone i slot hi)
    rcases hs with hc | ⟨_, hc⟩ <;> cases hc
  | reach _ hg =>
    intro _ _ _ _
    have hb := hfit.bound
    have hc := hfit.counted
    simp only [reached]
    omega
  | settle hi => exact absurd (.inl rfl) (hnone _ _ hi)
  | close hi =>
    have hb := h.belongs _ _ hi
    refine others ?_
    rintro (hc | ⟨rfl, hc⟩)
    · cases hc
    · rename_i cause failures
      cases cause with
      | none => cases hb
      | some f => cases hc
  | drop hi _ =>
    have hs := hnone _ _ hi
    exact others hs
  | _ =>
    refine others ?_
    rintro (hc | ⟨_, hc⟩) <;> cases hc

theorem accepted_append {before : List (Move κ)} (after : List (Move κ)) {h : Hook κ}
    (hs : (run before).lifecycle.state = .idle ∨
      (run before).lifecycle.state = .running ∧ h.onStart = none) :
    (run (before ++ .append h :: after)).accepted[(run before).accepted.length]? = some h := by
  have hnow : (run (before ++ [.append h])).accepted = (run before).accepted ++ [h] := by
    rw [run_concat]
    rcases hs with hs | ⟨hs, hh⟩
    · simp [act, accepts, hs]
    · simp [act, accepts, numbered, hs, hh]
  obtain ⟨more, hmore⟩ := accepted_mono (before ++ [.append h]) after
  rw [List.append_cons, ← hmore, hnow, List.append_assoc,
    List.getElem?_append_right (Nat.le_refl _), Nat.sub_self]
  rfl

theorem lt_reached_of_append {before after : List (Move κ)} {h : Hook κ}
    (hs : (run before).lifecycle.state = .idle ∨
      (run before).lifecycle.state = .running ∧ h.onStart = none)
    {i : Nat} {slot : Slot κ} (hi : (run (before ++ .append h :: after)).slots[i]? = some slot)
    (hset : Settled slot) :
    (run before).accepted.length < (run (before ++ .append h :: after)).reached := by
  have hfit := fit_run before
  have htold := told_run before
  rw [List.append_cons] at hi ⊢
  -- As long as no start call has found its last hook, the hook may still be started. When one does,
  -- all registered hooks have started, and this one is among them.
  have counted := run_append_induction (P := fun s ↦
    (run before).accepted.length < s.accepted.length ∧
      ((run before).accepted.length < s.reached ∨
        ∀ (i : Nat) (slot : Slot κ), s.slots[i]? = some slot → ¬ Settled slot))
    (before ++ [.append h]) after ?_ ?_
  · rcases counted.2 with hlt | hnone
    · exact hlt
    · exact absurd hset (hnone i slot hi)
  · rw [run_concat]
    rcases hs with hs | ⟨hs, hh⟩
    · have none_settled : ∀ (i : Nat) (slot : Slot κ), (run before).slots[i]? = some slot →
          ¬ Settled slot :=
        fun i slot hi hset ↦ htold.idle hs i slot hi (htold.begun_of_settled hi hset)
      refine ⟨?_, .inr ?_⟩
      · simp [act, accepts, hs]
      · exact none_settled
    · have hc := hfit.counted
      refine ⟨?_, .inl ?_⟩
      · simp [act, accepts, numbered, hs, hh]
      · simp [act, append, accepts, numbered, reached, hs, hh]
        omega
  · rintro between m s' ⟨hlt, hor⟩ hst
    have hfit := fit_run (before ++ [.append h] ++ between)
    have htold := told_run (before ++ [.append h] ++ between)
    have hlt := Nat.lt_of_lt_of_le hlt hst.accepted_mono.length_le
    refine ⟨hlt, ?_⟩
    rcases hor with hor | hnone
    · exact .inl (Nat.lt_of_lt_of_le hor (hfit.reached_le hst))
    · by_contra hcon
      push Not at hcon
      obtain ⟨hge, j, slot', hj, hset'⟩ := hcon
      have hall := htold.reached_eq_of_settled hfit hst hnone j slot' hj hset'
      omega

end Counting

section Answers

/-- Only what has been invoked is waited for or comes back. -/
structure Answered (s : Scene κ) : Prop where
  waiting : ∀ (i : Nat) (slot : Slot κ), s.slots[i]? = some slot → ∀ verb n,
    slot.call.awaited = some verb → slot.job = some n → (verb, n) ∈ s.invocations
  returned : ∀ verb n result, .returned verb n result ∈ s.log → (verb, n) ∈ s.invocations

theorem Answered.start : Answered ({} : Scene κ) where
  waiting i slot h := by simp at h
  returned verb n result h := by simp at h

theorem Answered.goOn (h : Answered s) {i : Nat} {new : Slot κ} {lifecycle : Lifecycle (Nat × κ)}
    {taken : Nat} {log : List Note}
    (hl : ∀ call ∈ s.invocations, call ∈ log.filterMap Note.invocation?)
    (hw : ∀ verb n, new.call.awaited = some verb → new.job = some n →
      (verb, n) ∈ log.filterMap Note.invocation?)
    (hr : ∀ verb n result, .returned verb n result ∈ log →
      .returned verb n result ∈ s.log ∨ (verb, n) ∈ s.invocations) :
    Answered { s with lifecycle, slots := s.slots.set i new, taken, log } where
  waiting := forall_set hw fun j slot _ hj verb n ha hn ↦ hl _ (h.waiting j slot hj verb n ha hn)
  returned verb n result hm := by
    rcases hr verb n result hm with hold | hold
    · exact hl _ (h.returned verb n result hold)
    · exact hl _ hold

theorem Answered.step (h : Answered s) {m : Move κ} (hst : Step s m s') : Answered s' := by
  cases hst with
  | take | join => exact ⟨h.waiting, h.returned⟩
  | make => exact ⟨forall_append (fun _ _ _ ↦ nofun) h.waiting, h.returned⟩
  | pass hi _ =>
    exact h.goOn (fun _ ↦ id) nofun fun verb n result hm ↦ .inl (by simpa using hm)
  | invoke hi _ hn =>
    refine h.goOn (fun _ ↦ List.mem_cons_of_mem _) ?_ fun _ _ _ hm ↦ .inl (by simpa using hm)
    rintro verb n ⟨⟩ ⟨⟩
    exact List.mem_cons_self
  | stop hi =>
    refine h.goOn (fun _ ↦ List.mem_cons_of_mem _) ?_ fun _ _ _ hm ↦ .inl (by simpa using hm)
    rintro verb n ⟨⟩ ⟨⟩
    exact List.mem_cons_self
  | begun hi | failed hi | ended hi _ =>
    have hw := h.waiting _ _ hi _ _ rfl rfl
    refine h.goOn (fun _ ↦ id) nofun fun verb n result hm ↦ ?_
    rcases List.mem_cons.mp hm with he | hm
    · cases he
      exact .inr hw
    · exact .inl hm
  | drop hi _ =>
    have hw := h.waiting _ _ hi
    exact h.goOn (fun _ ↦ id) hw fun _ _ _ ↦ .inl
  | _ => exact h.goOn (fun _ ↦ id) nofun fun _ _ _ ↦ .inl

theorem answered_run (ms : List (Move κ)) : Answered (run ms) :=
  run_induction ms .start fun _ _ _ _ h hst ↦ h.step hst

theorem invoked_or_held {ms : List (Move κ)} {n : Nat} {h : Hook κ} (hn : n < (run ms).taken)
    (ha : (run ms).accepted[n]? = some h) (hs : h.onStop ≠ none) :
    (.stop, n) ∈ (run ms).invocations ∨
      ∃ (i : Nat) (slot : Slot κ), (run ms).slots[i]? = some slot ∧ slot.Holds n := by
  rcases (served_run ms).pending n h hn ha hs with ⟨result, hr⟩ | hheld
  · exact .inl ((answered_run ms).returned _ _ _ hr)
  · exact .inr hheld

theorem Told.of_holds (h : Told s) {i n : Nat} {slot : Slot κ} (hi : s.slots[i]? = some slot)
    (hh : slot.Holds n) : slot.call.active ∧
      (Begun slot ∧ (∃ f, slot.call.cause? = some f) ∨ slot.verb = .stop ∧ slot.call.stops) := by
  have hb := h.belongs i slot hi
  obtain ⟨verb, call, job, dropped⟩ := slot
  cases call with
  | unwind cause | stopping cause =>
    refine ⟨rfl, ?_⟩
    cases cause with
    | some f => exact .inl ⟨⟨hb, rfl⟩, f, rfl⟩
    | none => exact .inr ⟨hb, rfl⟩
  | _ => cases hh

/-- After a start call has succeeded and all stop calls that were let in are through, every hook that
counted as started has been stopped. -/
theorem invoked_of_reached {ms : List (Move κ)} {n : Nat} {h : Hook κ} (hn : n < (run ms).reached)
    (ha : (run ms).accepted[n]? = some h) (hs : h.onStop ≠ none)
    (hstart : (run ms).Ended .start (.ok ())) (hover : (run ms).Over)
    (hquiet : ∀ (i : Nat) (slot : Slot κ), (run ms).slots[i]? = some slot → slot.verb = .stop →
      slot.call.active = false) : (.stop, n) ∈ (run ms).invocations := by
  have htold := told_run ms
  have hz := htold.halted hover
  have hn : n < (run ms).taken := by
    simp only [reached] at hn
    omega
  rcases invoked_or_held hn ha hs with hdone | ⟨j, other, hj, hh⟩
  · exact hdone
  · obtain ⟨hact, hkind⟩ := htold.of_holds hj hh
    rcases hkind with ⟨hb, _⟩ | ⟨hv, _⟩
    · obtain ⟨i, slot, hi, hv, hc⟩ := hstart
      obtain rfl := htold.sole i j slot other hi hj ⟨hv, by rw [hc]; rfl⟩ hb
      obtain rfl := Option.some_inj.mp (hi.symm.trans hj)
      rw [hc] at hact
      cases hact
    · rw [hquiet j other hj hv] at hact
      cases hact

end Answers

section Rollbacks

theorem Step.cause_mono {m : Move κ} (hst : Step s m s') {i : Nat} {slot : Slot κ} {f : Failure}
    (hi : s.slots[i]? = some slot) (hc : slot.call.cause? = some f) :
    ∃ slot', s'.slots[i]? = some slot' ∧ slot'.call.cause? = some f := by
  have kept {j : Nat} {old new : Slot κ} (hj : s.slots[j]? = some old)
      (hnew : old.call.cause? = some f → new.call.cause? = some f) :
      ∃ slot', (s.slots.set j new)[i]? = some slot' ∧ slot'.call.cause? = some f := by
    by_cases hij : j = i
    · subst hij
      obtain rfl := Option.some_inj.mp (hj.symm.trans hi)
      exact ⟨new, List.getElem?_set_self (List.getElem?_eq_some_iff.mp hj).1, hnew hc⟩
    · exact ⟨slot, by rw [List.getElem?_set_ne hij, hi], hc⟩
  cases hst with
  | take | join => exact ⟨slot, hi, hc⟩
  | make =>
    refine ⟨slot, ?_, hc⟩
    rw [List.getElem?_append_left (List.getElem?_eq_some_iff.mp hi).1]
    exact hi
  | close hj =>
    refine kept hj fun hf ↦ ?_
    rw [Call.cause?_verdict]
    exact hf
  | start hj _ | refuse hj _ | pass hj _ | reach hj _ | skip hj _ _ | invoke hj _ _ | count hj
  | settle hj | begun hj | failed hj => exact kept hj nofun
  | drain hj | pop hj | stop hj | empty hj | ended hj _ | drop hj _ => exact kept hj id

theorem cause_mono {first : List (Move κ)} {i : Nat} {slot : Slot κ} {f : Failure}
    (hi : (run first).slots[i]? = some slot) (hc : slot.call.cause? = some f)
    (more : List (Move κ)) :
    ∃ slot', (run (first ++ more)).slots[i]? = some slot' ∧ slot'.call.cause? = some f := by
  apply run_append_induction (P := fun s ↦ ∃ slot' : Slot κ, s.slots[i]? = some slot' ∧
    slot'.call.cause? = some f) first more ⟨slot, hi, hc⟩
  intro before m s' ⟨slot', hi', hc'⟩ hst
  exact hst.cause_mono hi' hc'

def Prompted (s : Scene κ) : Prop :=
  (∃ i, .passed i ∈ s.log) ∨
    ∃ (i : Nat) (slot : Slot κ) (f : Failure), s.slots[i]? = some slot ∧ slot.call.cause? = some f

theorem Prompted.step (h : s.Prompted) {m : Move κ} (hst : Step s m s') : s'.Prompted := by
  rcases h with ⟨i, hi⟩ | ⟨i, slot, f, hi, hc⟩
  · exact .inl ⟨i, hst.log_mono.subset hi⟩
  · obtain ⟨slot', hi', hc'⟩ := hst.cause_mono hi hc
    exact .inr ⟨i, slot', f, hi', hc'⟩

theorem prompted_of_invoked (ms : List (Move κ)) :
    ∀ n, (.stop, n) ∈ (run ms).invocations → (run ms).Prompted := by
  apply run_induction (P := fun s ↦ ∀ n, (.stop, n) ∈ s.invocations → s.Prompted) ms
  · intro n hn
    simp [invocations] at hn
  · intro before m s' _ ih hst n hn
    have hserved := served_run before
    have later : (.stop, n) ∈ (run before).invocations → s'.Prompted :=
      fun hold ↦ (ih n hold).step hst
    cases hst with
    | @stop i k verb job cause name callback rest failures hi =>
      cases cause with
      | some f =>
        exact .inr ⟨i, _, f, List.getElem?_set_self (List.getElem?_eq_some_iff.mp hi).1, rfl⟩
      | none => exact .inl ⟨i, List.mem_cons_of_mem _ (hserved.passed i _ hi rfl)⟩
    | invoke =>
      rcases List.mem_cons.mp hn with he | hold
      · cases he
      · exact later hold
    | _ => exact later hn

theorem not_invoked_of_not_passed {first more : List (Move κ)}
    (hstart : (run (first ++ more)).Ended .start (.ok ()))
    (hpass : ∀ i, .passed i ∉ (run first).log) (n : Nat) :
    (.stop, n) ∉ (run first).invocations := by
  intro hn
  rcases prompted_of_invoked first n hn with ⟨i, hi⟩ | ⟨j, other, f, hj, hc⟩
  · exact hpass i hi
  · obtain ⟨other', hj', hc'⟩ := cause_mono hj hc more
    have htold := told_run (first ++ more)
    obtain ⟨i, slot, hi, hv, hok⟩ := hstart
    obtain rfl := htold.sole i j slot other' hi hj' ⟨hv, by rw [hok]; rfl⟩
      (htold.begun_of_cause hj' hc')
    obtain rfl := Option.some_inj.mp (hi.symm.trans hj')
    rw [hok] at hc'
    cases hc'

def Calling (s : Scene κ) (name : String) : Prop :=
  ∃ h, s.accepted[s.reached]? = some h ∧ h.name = name ∧ h.onStart ≠ none

def Blamed (s : Scene κ) (f : Failure) : Prop :=
  (s.lifecycle.state = .starting ∨ s.Over) ∧ (∀ j, .passed j ∉ s.log) ∧ s.Calling f.hook ∧
    .returned .start s.reached (.error f.error) ∈ s.log

/-- What a start call tells of a failure is true, after every move. -/
structure Accused (s : Scene κ) : Prop where
  early : s.lifecycle.state = .idle ∨ s.lifecycle.state = .starting → ∀ j, .passed j ∉ s.log
  calling : ∀ (i : Nat) (slot : Slot κ), s.slots[i]? = some slot → ∀ name,
    slot.call = .starting name → s.Calling name
  blamed : ∀ (i : Nat) (slot : Slot κ), s.slots[i]? = some slot → ∀ f,
    slot.call.cause? = some f → s.Blamed f

theorem Accused.start : Accused ({} : Scene κ) where
  early _ j := by simp
  calling i slot h := by simp at h
  blamed i slot h := by simp at h

theorem Calling.frame {name : String} (h : s.Calling name) (ha : s.accepted <+: s'.accepted)
    (hr : s'.reached = s.reached) : s'.Calling name := by
  obtain ⟨g, hg, hrest⟩ := h
  obtain ⟨more, hmore⟩ := ha
  refine ⟨g, ?_, hrest⟩
  rw [hr, ← hmore, List.getElem?_append_left (List.getElem?_eq_some_iff.mp hg).1]
  exact hg

theorem Blamed.frame {f : Failure} (h : s.Blamed f)
    (hs : s.lifecycle.state = .starting ∨ s.Over → s'.lifecycle.state = .starting ∨ s'.Over)
    (ha : s.accepted <+: s'.accepted) (hr : s'.reached = s.reached) (hl : s.log <:+ s'.log)
    (hp : ∀ j, .passed j ∈ s'.log → .passed j ∈ s.log) : s'.Blamed f := by
  obtain ⟨hstate, hnone, hcall, hback⟩ := h
  refine ⟨hs hstate, fun j hj ↦ hnone j (hp j hj), hcall.frame ha hr, ?_⟩
  rw [hr]
  exact hl.subset hback

theorem Accused.set (h : Accused s) {i : Nat} {new : Slot κ} {lifecycle : Lifecycle (Nat × κ)}
    {taken : Nat} {log : List Note}
    (hs : s.lifecycle.state = .starting ∨ s.Over → lifecycle.state = .starting ∨
      lifecycle.state = .stopping ∨ lifecycle.state = .stopped)
    (hidle : lifecycle.state = .idle ∨ lifecycle.state = .starting →
      s.lifecycle.state = .idle ∨ s.lifecycle.state = .starting)
    (hr : taken + lifecycle.started = s.reached) (hl : s.log <:+ log)
    (hp : ∀ j, .passed j ∈ log → .passed j ∈ s.log)
    (hc : ∀ name, new.call = .starting name → s.Calling name)
    (hf : ∀ f, new.call.cause? = some f →
      Blamed { s with lifecycle, slots := s.slots.set i new, taken, log } f) :
    Accused { s with lifecycle, slots := s.slots.set i new, taken, log } where
  early hi j hj := h.early (hidle hi) j (hp j hj)
  calling := forall_set (fun name hn ↦ (hc name hn).frame (List.prefix_refl _) hr)
    fun j slot _ hj name hn ↦ (h.calling j slot hj name hn).frame (List.prefix_refl _) hr
  blamed := forall_set hf fun j slot _ hj f hc ↦
    (h.blamed j slot hj f hc).frame hs (List.prefix_refl _) hr hl hp

theorem Accused.goOn (h : Accused s) {i : Nat} {old new : Slot κ} {lifecycle : Lifecycle (Nat × κ)}
    {log : List Note} (hi : s.slots[i]? = some old) (hs : lifecycle.state = s.lifecycle.state)
    (hn : lifecycle.started = s.lifecycle.started) (hl : s.log <:+ log)
    (hp : ∀ j, .passed j ∈ log → .passed j ∈ s.log)
    (hc : ∀ name, new.call = .starting name → s.Calling name)
    (hf : ∀ f, new.call.cause? = some f → old.call.cause? = some f) :
    Accused { s with lifecycle, slots := s.slots.set i new, log } := by
  have hr : s.taken + lifecycle.started = s.reached := by rw [hn, reached]
  refine h.set ?_ ?_ hr hl hp hc fun f hnew ↦ ?_
  · rw [hs]
    exact id
  · rw [hs]
    exact id
  · refine (h.blamed i old hi f (hf f hnew)).frame ?_ (List.prefix_refl _) hr hl hp
    simp only [Over, hs]
    exact id

def Quiet (call : Call (Nat × κ)) : Prop := call.cause? = none ∧ ∀ name, call ≠ .starting name

theorem Accused.of_quiet
    (hearly : s.lifecycle.state = .idle ∨ s.lifecycle.state = .starting → ∀ j, .passed j ∉ s.log)
    (hq : ∀ (i : Nat) (slot : Slot κ), s.slots[i]? = some slot → Quiet slot.call) : Accused s where
  early := hearly
  calling i slot hi name hn := absurd hn ((hq i slot hi).2 name)
  blamed i slot hi f hf := by
    rw [(hq i slot hi).1] at hf
    cases hf

theorem Accused.quiet_of_running (h : Accused s) (hfit : Fit s) (hs : s.lifecycle.state = .running)
    {i : Nat} {slot : Slot κ} (hi : s.slots[i]? = some slot) : Quiet slot.call := by
  have hf := hfit.fits i slot hi
  refine ⟨Option.eq_none_iff_forall_ne_some.mpr fun f hc ↦ ?_, fun name hn ↦ ?_⟩
  · obtain ⟨hstate | hstate | hstate, _⟩ := h.blamed i slot hi f hc <;>
      exact nomatch hs.symm.trans hstate
  · simp only [Fits, hn, hs] at hf
    exact nomatch hf.1

theorem Told.quiet_of_starting (h : Told s) (hfit : Fit s) (hs : s.lifecycle.state = .starting)
    {i j : Nat} {slot other : Slot κ} (hi : s.slots[i]? = some slot) (ha : slot.call.active = true)
    (hij : j ≠ i) (hj : s.slots[j]? = some other) : Quiet other.call := by
  have hin := hfit.inactive_of_starting hs hi ha hij hj
  have hend := h.ended j other hj
  obtain ⟨verb, call, job, dropped⟩ := other
  cases call with
  | enter => exact ⟨rfl, nofun⟩
  | done result =>
    refine ⟨Option.eq_none_iff_forall_ne_some.mpr fun f hc ↦ ?_, nofun⟩
    obtain ⟨hb, ho⟩ := h.begun_of_cause hj hc
    have hover : s.Over := by
      refine hend _ rfl ho ?_
      rintro (he | ⟨_, he⟩)
      · cases he
      · rw [show Call.done result = _ from he] at hc
        cases hc
    rcases hover with hover | hover <;> exact nomatch hs.symm.trans hover
  | _ => cases hin

theorem Accused.step (h : Accused s) (htold : Told s) (hfit : Fit s) {m : Move κ}
    (hst : Step s m s') : Accused s' := by
  cases hst with
  | @take new hs =>
    refine ⟨h.early, fun i slot hi name hn ↦ ?_, fun i slot hi f hf ↦ ?_⟩
    · exact (h.calling i slot hi name hn).frame (List.prefix_append _ _) rfl
    · exact (h.blamed i slot hi f hf).frame id (List.prefix_append _ _) rfl (List.suffix_refl _)
        fun _ ↦ id
  | join hs hh => exact .of_quiet h.early fun i slot hi ↦ h.quiet_of_running hfit hs hi
  | make =>
    exact ⟨h.early, forall_append (fun _ _ ↦ nofun) h.calling,
      forall_append (fun _ _ ↦ nofun) h.blamed⟩
  | start hi hs =>
    refine h.set ?_ ?_ rfl (List.suffix_refl _) (fun _ ↦ id) nofun nofun
    · exact fun _ ↦ .inl rfl
    · exact fun _ ↦ .inl hs
  | refuse hi he =>
    refine h.goOn hi rfl rfl (List.suffix_refl _) (fun _ ↦ id) nofun fun f hf ↦ ?_
    rcases he with ⟨_, rfl, _⟩ | ⟨_, rfl, _⟩ <;> cases hf
  | pass hi hs =>
    refine .of_quiet ?_ (forall_set ⟨rfl, nofun⟩ fun j slot _ hj ↦ h.quiet_of_running hfit hs hj)
    rintro (hs' | hs') <;> exact nomatch hs.symm.trans hs'
  | reach hi | skip hi =>
    exact h.goOn hi rfl rfl (List.suffix_refl _) (fun _ ↦ id) nofun nofun
  | @invoke i n verb job g callback hi hg hn =>
    refine h.goOn hi rfl rfl (List.suffix_cons _ _) (fun _ hj ↦ by simpa using hj) ?_ nofun
    rintro name ⟨⟩
    obtain ⟨h₀, ha, hname, _, hstart⟩ := hfit.kept _ _ hg
    refine ⟨h₀, ha, hname.symm, fun hnone ↦ ?_⟩
    rw [hnone, hn] at hstart
    rcases hstart with hstart | hstart <;> cases hstart
  | count hi =>
    have hs := (hfit.fits _ _ hi).1
    refine .of_quiet (fun _ ↦ h.early (.inr hs)) ?_
    exact forall_set ⟨rfl, nofun⟩ fun j slot hij hj ↦ htold.quiet_of_starting hfit hs hi rfl hij hj
  | settle hi =>
    -- The call that settles is the only one under way, and it has not failed.
    have hs : s.lifecycle.state = .starting := hfit.fits _ _ hi
    refine .of_quiet nofun ?_
    exact forall_set ⟨rfl, nofun⟩ fun j slot hij hj ↦ htold.quiet_of_starting hfit hs hi rfl hij hj
  | drain hi =>
    have hb := hfit.bound
    have hr : s.taken + min s.lifecycle.started s.lifecycle.hooks.length + 0 = s.reached := by
      rw [reached]
      omega
    have hold := h.blamed _ _ hi
    refine h.set (fun _ ↦ .inr (.inl rfl)) nofun hr (List.suffix_refl _) (fun _ ↦ id) nofun ?_
    intro f hf
    exact (hold f hf).frame (fun _ ↦ .inr (.inl rfl)) (List.prefix_refl _) hr (List.suffix_refl _)
      fun _ ↦ id
  | pop hi | empty hi =>
    exact h.goOn hi rfl rfl (List.suffix_refl _) (fun _ ↦ id) nofun fun _ ↦ id
  | stop hi | ended hi =>
    exact h.goOn hi rfl rfl (List.suffix_cons _ _) (fun _ hj ↦ by simpa using hj) nofun fun _ ↦ id
  | close hi =>
    have hold := h.blamed _ _ hi
    refine h.set (fun _ ↦ .inr (.inr rfl)) nofun rfl (List.suffix_refl _) (fun _ ↦ id) nofun ?_
    intro f hf
    rw [Call.cause?_verdict] at hf
    exact (hold f hf).frame (fun _ ↦ .inr (.inr rfl)) (List.prefix_refl _) rfl
      (List.suffix_refl _) fun _ ↦ id
  | begun hi =>
    exact h.goOn hi rfl rfl (List.suffix_cons _ _) (fun _ hj ↦ by simpa using hj) nofun nofun
  | @failed i n verb name e hi =>
    -- The callback that failed is that of the next hook to be started: the job says so.
    obtain ⟨hs, _, hjob⟩ := hfit.fits _ _ hi
    obtain rfl : n = s.taken + s.lifecycle.started := Option.some_inj.mp hjob
    have hcall := h.calling _ _ hi name rfl
    refine h.set id id rfl (List.suffix_cons _ _) (fun _ hj ↦ by simpa using hj) nofun ?_
    rintro f ⟨⟩
    exact ⟨.inl hs, fun j hj ↦ h.early (.inr hs) j (by simpa using hj), hcall,
      List.mem_cons_self⟩
  | drop hi _ =>
    have hcall := h.calling _ _ hi
    exact h.goOn hi rfl rfl (List.suffix_refl _) (fun _ ↦ id) hcall fun _ ↦ id

theorem accused_run (ms : List (Move κ)) : Accused (run ms) :=
  run_induction ms .start fun before _ _ _ h hst ↦ h.step (told_run before) (fit_run before) hst

/-- A start call that fails has stopped the hooks before the one that failed, and nobody ever stops
another one. -/
theorem rolled_back {ms : List (Move κ)} {i : Nat} {slot : Slot κ} {f : Failure}
    (hi : (run ms).slots[i]? = some slot) (hc : slot.call = .done (.error (.start f))) :
    ∃ k h, (run ms).accepted[k]? = some h ∧ h.name = f.hook ∧ h.onStart ≠ none ∧
      .returned .start k (.error f.error) ∈ (run ms).log ∧
      (∀ n g, n < k → (run ms).accepted[n]? = some g → g.onStop ≠ none →
        (.stop, n) ∈ (run ms).invocations) ∧
      ∀ more n, k ≤ n → (.stop, n) ∉ (run (ms ++ more)).invocations := by
  have htold := told_run ms
  have hcause : slot.call.cause? = some f := by rw [hc]; rfl
  have hbegun := htold.begun_of_cause hi hcause
  obtain ⟨_, hnone, ⟨h, ha, hname, hstart⟩, hback⟩ := (accused_run ms).blamed i slot hi f hcause
  have hover : (run ms).Over := by
    refine htold.ended i slot hi _ hc hbegun.2 ?_
    rintro (he | ⟨_, he⟩) <;> rw [hc] at he <;> cases he
  have htaken : (run ms).reached = (run ms).taken := by
    rw [reached, htold.halted hover, Nat.add_zero]
  refine ⟨_, h, ha, hname, hstart, hback, fun n g hn hg hs ↦ ?_, fun more n hn hm ↦ ?_⟩
  · rw [htaken] at hn
    rcases invoked_or_held hn hg hs with hdone | ⟨j, other, hj, hh⟩
    · exact hdone
    · obtain ⟨hact, hkind⟩ := htold.of_holds hj hh
      rcases hkind with ⟨hb, _⟩ | ⟨_, hstops⟩
      · obtain rfl := htold.sole i j slot other hi hj hbegun hb
        obtain rfl := Option.some_inj.mp (hi.symm.trans hj)
        rw [hc] at hact
        cases hact
      · exact absurd ((served_run ms).passed j other hj hstops) (hnone j)
  · have hlt := (unspent_run (ms ++ more)).gone n hm
    rw [(taken_of_over hover more).2] at hlt
    omega

end Rollbacks

end Scene

end Telemetry.Lifecycle
