import Mathlib
import Telemetry.Proofs.Installation.Failure
import Telemetry.Proofs.Lifecycle.Whole
import Telemetry.Proofs.Provider.Closers

namespace Telemetry

open Lifecycle (Verb disarm)

variable {α σ : Type}

namespace Hook

def target? (h : Hook (Callback α)) : Option α := h.onStop >>= Callback.target?

def Mild (h : Hook (Callback α)) : Prop := h.onStart >>= Callback.target? = none

def comesUp (limit : Duration) (h : Hook (Callback α)) : Bool :=
  match h.onStart with
  | some (.other outcome) => (outcome.resultWithin limit).isOk
  | _ => true

end Hook

namespace Lifecycle.Course

variable {t : Timeouts} {shutdown : Signal → α → σ → Attempt × σ}
  {s s' : Course (Callback α) σ} {h : Hook (Callback α)} {hooks : List (Hook (Callback α))}

theorem other_of_mild (hm : h.Mild) {callback : Callback α} (hcb : h.onStart = some callback) :
    ∃ outcome, callback = .other outcome := by
  cases callback with
  | close => simp [Hook.Mild, hcb, Callback.target?] at hm
  | other outcome => exact ⟨outcome, rfl⟩

theorem Climb.mild (hc : Climb t (Callback.exec shutdown) s hooks s') (hm : ∀ h ∈ hooks, h.Mild) :
    s'.surroundings = s.surroundings ∧ ∀ h ∈ hooks, h.comesUp t.start = true := by
  induction hc with
  | nil => simp
  | bare hnone _ ih =>
    rw [List.forall_mem_cons] at hm ⊢
    obtain ⟨hsame, hups⟩ := ih hm.2
    exact ⟨hsame, by simp [Hook.comesUp, hnone], hups⟩
  | ran hsome hok _ ih =>
    rw [List.forall_mem_cons] at hm ⊢
    obtain ⟨hsame, hups⟩ := ih hm.2
    obtain ⟨outcome, rfl⟩ := other_of_mild hm.1 hsome
    obtain ⟨hresult, rfl⟩ := Prod.mk.inj hok
    have hup : outcome.resultWithin t.start = .ok () := hresult
    exact ⟨hsame, by simp [Hook.comesUp, hsome, hup, Except.isOk, Except.toBool], hups⟩

theorem Fall.mild {ahead : List (Hook (Callback α))} {e : HookError}
    (hf : Fall t (Callback.exec shutdown) s ahead h e s') (hm : ∀ g ∈ ahead, g.Mild)
    (hh : h.Mild) : s'.surroundings = s.surroundings ∧
      (∀ g ∈ ahead, g.comesUp t.start = true) ∧ h.comesUp t.start = false := by
  obtain ⟨s₁, callback, hc, hsome, hi⟩ := hf
  obtain ⟨hsame, hups⟩ := hc.mild hm
  obtain ⟨outcome, rfl⟩ := other_of_mild hh hsome
  obtain ⟨hresult, rfl⟩ := Prod.mk.inj hi
  have hdown : outcome.resultWithin t.start = .error e := hresult
  exact ⟨hsame, hups, by simp [Hook.comesUp, hsome, hdown, Except.isOk, Except.toBool]⟩

end Lifecycle.Course

def isClosed (ps : List Pipeline) (p : Nat) : Bool := ps[p]?.any (·.isShutDown)

theorem Pipeline.isShutDown_shutdown (p : Pipeline) : p.shutdown.2.isShutDown = true := by
  unfold shutdown
  split
  · assumption
  · cases p.tracer? with
    | none => rfl
    | some t =>
      simp only [withTracer]
      split <;> rfl

theorem Pipeline.isShutDown_of_made {ids : IdSource} {resource : Resource} {c : ExporterConfig}
    {k : Signal} {p : Pipeline} (h : made ids resource c k = .ok (some p)) :
    p.isShutDown = false := by
  have henabled := enabled_of_made h
  rw [made_eq, henabled, if_neg Bool.false_ne_true] at h
  unfold ofPrepared at h
  split at h
  · cases h
  · split at h
    · cases h
    · cases h
      rfl

namespace Registry

theorem length_exec (callback : Callback Nat) (ps : List Pipeline) :
    (callback.exec shutdownIn ps).2.length = ps.length := by
  cases callback with
  | other outcome => rfl
  | close k service limit place =>
    simp only [Callback.exec, shutdownIn]
    split <;> simp

theorem isClosed_exec {ps : List Pipeline} {p : Nat} (hp : p < ps.length)
    (callback : Callback Nat) : isClosed (callback.exec shutdownIn ps).2 p = true ↔
      isClosed ps p = true ∨ callback.target? = some p := by
  cases callback with
  | other outcome => simp [Callback.exec, Callback.target?]
  | close k service limit place =>
    simp only [Callback.exec, shutdownIn, Callback.target?, Option.some_inj]
    by_cases heq : place = p
    · subst heq
      simp [isClosed, hp, Pipeline.isShutDown_shutdown]
    · split <;> simp [isClosed, heq]

def closeAll (hooks : List (Hook (Callback Nat))) (ps : List Pipeline) : List Pipeline :=
  (hooks.reverse.filterMap (·.onStop)).foldl (fun ps callback ↦ (callback.exec shutdownIn ps).2) ps

theorem foldl_exec (callbacks : List (Callback Nat)) (ps : List Pipeline) :
    (callbacks.foldl (fun ps callback ↦ (callback.exec shutdownIn ps).2) ps).length = ps.length ∧
    ∀ p < ps.length,
      (isClosed (callbacks.foldl (fun ps callback ↦ (callback.exec shutdownIn ps).2) ps) p = true ↔
        isClosed ps p = true ∨ ∃ callback ∈ callbacks, callback.target? = some p) := by
  induction callbacks generalizing ps with
  | nil => simp
  | cons callback callbacks ih =>
    obtain ⟨hlength, hclosed⟩ := ih (callback.exec shutdownIn ps).2
    rw [length_exec] at hlength hclosed
    refine ⟨hlength, fun p hp ↦ ?_⟩
    rw [List.foldl_cons, hclosed p hp, isClosed_exec hp, or_assoc]
    simp

@[simp] theorem length_closeAll (hooks : List (Hook (Callback Nat))) (ps : List Pipeline) :
    (closeAll hooks ps).length = ps.length := (foldl_exec _ _).1

theorem isClosed_closeAll (hooks : List (Hook (Callback Nat))) {ps : List Pipeline} {p : Nat}
    (hp : p < ps.length) : isClosed (closeAll hooks ps) p = true ↔
      isClosed ps p = true ∨ ∃ h ∈ hooks, h.target? = some p := by
  rw [closeAll, (foldl_exec _ _).2 p hp]
  simp only [List.mem_filterMap, List.mem_reverse, Hook.target?, Option.bind_eq_bind,
    Option.bind_eq_some_iff]
  refine or_congr_right ⟨?_, ?_⟩
  · rintro ⟨callback, ⟨h, hh, hcb⟩, ht⟩
    exact ⟨h, hh, callback, hcb, ht⟩
  · rintro ⟨h, hh, callback, hcb, ht⟩
    exact ⟨callback, ⟨h, hh, hcb⟩, ht⟩

theorem closeAll_map_disarm (hooks : List (Hook (Callback Nat))) (ps : List Pipeline) :
    closeAll (hooks.map disarm) ps = closeAll hooks ps := by
  unfold closeAll
  rw [← List.map_reverse, List.filterMap_map]
  rfl

end Registry

namespace Lifecycle

/-- No call is going on, and a running lifecycle has started all of its hooks. -/
def Rests (l : Lifecycle α) : Prop :=
  l.state = .idle ∧ l.started = 0 ∨ l.state = .running ∧ l.started = l.hooks.length ∨
    l.state = .stopped

theorem Rests.append {l : Lifecycle α} (hr : l.Rests) (h : Hook α) : (l.append h).Rests := by
  unfold Lifecycle.append
  split
  · rcases hr with ⟨hs, h0⟩ | ⟨hs, _⟩ | hs
    · exact .inl (by simp [hs, h0])
    · exact .inr (.inl (by simp [hs]))
    · exact .inr (.inr hs)
  · exact hr

theorem calm_append {l : Lifecycle α} {h : Hook α} : (l.append h).Calm ↔ l.Calm := by
  unfold Calm
  rw [state_append]

theorem mem_hooks_append {l : Lifecycle α} {g h : Hook α} (hg : g ∈ (l.append h).hooks) :
    g ∈ l.hooks ∨ g = h := by
  unfold Lifecycle.append at hg
  split at hg
  · simpa using hg
  · exact .inl hg

theorem mem_append_of_mem {l : Lifecycle α} {g : Hook α} (hg : g ∈ l.hooks) (h : Hook α) :
    g ∈ (l.append h).hooks := by
  unfold Lifecycle.append
  split
  · exact List.mem_append_left _ hg
  · exact hg

theorem mem_append_self {l : Lifecycle α} (hcalm : l.Calm) {h : Hook α} (hbare : h.onStart = none) :
    h ∈ (l.append h).hooks := by
  simp [Lifecycle.append, hcalm.accepts hbare]

/-- A call on a lifecycle stops a hook: the lifecycle is running and the call is to stop it, or the
call is to start it and fails at a later hook. -/
def Retires (t : Timeouts) (l : Lifecycle (Callback Nat)) (h : Hook (Callback Nat)) : Verb → Prop
  | .start => l.state = .idle ∧ (∃ g ∈ l.hooks, g.comesUp t.start = false) ∧
      h ∈ l.hooks.takeWhile (·.comesUp t.start)
  | .stop => l.state = .running

inductive CallEffect (t : Timeouts) (l : Lifecycle (Callback Nat)) (ps : List Pipeline) :
    Verb → Lifecycle (Callback Nat) → List Pipeline → Prop
  | refused {verb : Verb} (late : l.state ≠ verb.entry) : CallEffect t l ps verb l ps
  | up (idle : l.state = .idle) (succeed : ∀ h ∈ l.hooks, h.comesUp t.start = true) :
      CallEffect t l ps .start ⟨l.hooks.map disarm, l.hooks.length, .running⟩ ps
  | fell {ahead behind : List (Hook (Callback Nat))} {h : Hook (Callback Nat)}
      (idle : l.state = .idle) (split : l.hooks = ahead ++ h :: behind)
      (succeed : ∀ g ∈ ahead, g.comesUp t.start = true) (fails : h.comesUp t.start = false) :
      CallEffect t l ps .start ⟨disarm h :: behind, 0, .stopped⟩ (Registry.closeAll ahead ps)
  | stopped (running : l.state = .running) :
      CallEffect t l ps .stop ⟨[], 0, .stopped⟩ (Registry.closeAll l.hooks ps)

namespace CallEffect

variable {t : Timeouts} {l l' : Lifecycle (Callback Nat)} {ps ps' : List Pipeline} {verb : Verb}
  {p : Nat}

theorem rests (he : CallEffect t l ps verb l' ps') (hr : l.Rests) : l'.Rests := by
  cases he with
  | refused => exact hr
  | up => exact .inr (.inl ⟨rfl, (List.length_map _).symm⟩)
  | fell | stopped => exact .inr (.inr rfl)

theorem length_eq (he : CallEffect t l ps verb l' ps') : ps'.length = ps.length := by
  cases he with
  | refused | up => rfl
  | fell | stopped => exact Registry.length_closeAll _ _

theorem mem_hooks (he : CallEffect t l ps verb l' ps') {h : Hook (Callback Nat)}
    (hh : h ∈ l'.hooks) : ∃ g ∈ l.hooks, h = g ∨ h = disarm g := by
  cases he with
  | refused => exact ⟨h, hh, .inl rfl⟩
  | up =>
    obtain ⟨g, hg, rfl⟩ := List.mem_map.mp hh
    exact ⟨g, hg, .inr rfl⟩
  | @fell ahead behind f _ hsplit =>
    rw [hsplit]
    rcases List.mem_cons.mp hh with rfl | hb
    · exact ⟨f, by simp, .inr rfl⟩
    · exact ⟨h, by simp [hb], .inl rfl⟩
  | stopped => cases hh

theorem mem_of_calm (he : CallEffect t l ps verb l' ps') {h : Hook (Callback Nat)}
    (hbare : disarm h = h) (hmem : l.Calm → h ∈ l.hooks) (hcalm : l'.Calm) : h ∈ l'.hooks := by
  cases he with
  | refused => exact hmem hcalm
  | up hidle =>
    rw [← hbare]
    exact List.mem_map_of_mem (hmem (.inl hidle))
  | fell | stopped => exact absurd rfl hcalm.ne_stopped

theorem isClosed_of_absent (he : CallEffect t l ps verb l' ps') (hp : p < ps.length)
    (hnone : ∀ g ∈ l.hooks, g.target? ≠ some p) :
    isClosed ps' p = true ↔ isClosed ps p = true := by
  cases he with
  | refused | up => rfl
  | @fell ahead behind f _ hsplit =>
    rw [Registry.isClosed_closeAll _ hp]
    refine or_iff_left ?_
    rintro ⟨g, hg, ht⟩
    exact hnone g (by simp [hsplit, hg]) ht
  | stopped =>
    rw [Registry.isClosed_closeAll _ hp]
    refine or_iff_left ?_
    rintro ⟨g, hg, ht⟩
    exact hnone g hg ht

theorem isClosed_iff (he : CallEffect t l ps verb l' ps') (hp : p < ps.length)
    {h : Hook (Callback Nat)} (ht : h.target? = some p)
    (hsole : ∀ g ∈ l.hooks, g.target? = some p → g = h) (hmem : l.Calm → h ∈ l.hooks) :
    isClosed ps' p = true ↔ isClosed ps p = true ∨ l.Retires t h verb := by
  have stops (hooks : List (Hook (Callback Nat))) (hsub : ∀ g ∈ hooks, g ∈ l.hooks) :
      (∃ g ∈ hooks, g.target? = some p) ↔ h ∈ hooks := by
    refine ⟨?_, fun hh ↦ ⟨h, hh, ht⟩⟩
    rintro ⟨g, hg, htg⟩
    exact hsole g (hsub g hg) htg ▸ hg
  cases he with
  | refused hlate =>
    refine (or_iff_left ?_).symm
    cases verb with
    | start => exact fun hr ↦ hlate hr.1
    | stop => exact fun hr ↦ hlate hr
  | up hidle hups =>
    refine (or_iff_left ?_).symm
    rintro ⟨_, ⟨g, hg, hdown⟩, _⟩
    cases (hups g hg).symm.trans hdown
  | @fell ahead behind f hidle hsplit hups hdown =>
    have htake : l.hooks.takeWhile (·.comesUp t.start) = ahead := by
      rw [hsplit, List.takeWhile_append_of_pos hups, List.takeWhile_cons_of_neg (by simp [hdown]),
        List.append_nil]
    rw [Registry.isClosed_closeAll _ hp, stops ahead fun g hg ↦ by simp [hsplit, hg]]
    refine or_congr_right ⟨fun hh ↦ ⟨hidle, ⟨f, by simp [hsplit], hdown⟩, htake ▸ hh⟩, ?_⟩
    rintro ⟨_, _, hh⟩
    exact htake ▸ hh
  | stopped hrunning =>
    rw [Registry.isClosed_closeAll _ hp, stops l.hooks fun g hg ↦ hg]
    exact or_congr_right ⟨fun _ ↦ hrunning, fun _ ↦ hmem (.inr hrunning)⟩

end CallEffect

end Lifecycle

namespace Registry

open Lifecycle

theorem surroundings_rollback {t : Timeouts} {ahead behind : List (Hook (Callback Nat))}
    {h : Hook (Callback Nat)} (e : HookError) (s : Course (Callback Nat) (List Pipeline)) :
    (Course.wind t (Callback.exec shutdownIn) (some ⟨h.name, e⟩)
      { s with lifecycle := rising ahead (disarm h :: behind) }).2.surroundings =
      closeAll ahead s.surroundings := by
  rw [Course.surroundings_wind, ← closeAll_map_disarm]
  simp [rising, closeAll]

theorem call_effect {reg : Registry} (hrest : reg.lifecycle.Rests)
    (hmild : ∀ h ∈ reg.lifecycle.hooks, h.Mild) (verb : Verb) :
    CallEffect reg.timeouts reg.lifecycle reg.pipelines verb (reg.call verb).2.lifecycle
      (reg.call verb).2.pipelines := by
  let s : Course (Callback Nat) (List Pipeline) :=
    { lifecycle := reg.lifecycle, surroundings := reg.pipelines, events := reg.events }
  have come {result : Option (Except Error Unit)} {s' : Course (Callback Nat) (List Pipeline)}
      (hrun : runAlone reg.timeouts (Callback.exec shutdownIn) verb s = (result, s')) :
      (reg.call verb).2.lifecycle = s'.lifecycle ∧ (reg.call verb).2.pipelines = s'.surroundings := by
    simp only [call, hrun, and_self, s]
  by_cases hlate : reg.lifecycle.state ≠ verb.entry
  · obtain ⟨hl, hps⟩ := come (runAlone_refused hlate)
    rw [hl, hps]
    exact .refused hlate
  rw [not_not] at hlate
  cases verb with
  | start =>
    have hidle : reg.lifecycle.state = .idle := hlate
    have hl : reg.lifecycle = ⟨reg.lifecycle.hooks, 0, .idle⟩ := by
      rcases hrest with ⟨hs, h0⟩ | ⟨hs, _⟩ | hs
      · rw [← hs, ← h0]
      · cases hs.symm.trans hidle
      · cases hs.symm.trans hidle
    rcases Course.climb_or_fall reg.lifecycle.hooks s with
      ⟨s', hc⟩ | ⟨ahead, h, behind, e, s', hsplit, hf⟩
    · obtain ⟨hsame, hups⟩ := hc.mild hmild
      obtain ⟨hl', hps⟩ := come (runAlone_start_of_climb hl hc)
      rw [hl', hps]
      exact hsame ▸ .up hidle hups
    · rw [hsplit] at hl hmild
      obtain ⟨hsame, hups, hdown⟩ := hf.mild (fun g hg ↦ hmild g (by simp [hg]))
        (hmild h (by simp))
      obtain ⟨hl', hps⟩ := come (runAlone_start_of_fall hl hf)
      rw [hl', hps, surroundings_rollback, hsame]
      have heffect : CallEffect reg.timeouts reg.lifecycle reg.pipelines .start _ _ :=
        .fell hidle hsplit hups hdown
      simpa [Course.wind, rising] using heffect
  | stop =>
    have hrunning : reg.lifecycle.state = .running := hlate
    have hall : reg.lifecycle.started = reg.lifecycle.hooks.length := by
      rcases hrest with ⟨hs, _⟩ | ⟨_, hall⟩ | hs
      · cases hs.symm.trans hrunning
      · exact hall
      · cases hs.symm.trans hrunning
    obtain ⟨hl, hps⟩ := come (runAlone_stop hrunning)
    rw [hl, hps, Course.surroundings_wind]
    have heffect : CallEffect reg.timeouts reg.lifecycle reg.pipelines .stop _ _ :=
      .stopped hrunning
    simpa [Course.wind, closeAll, s, hall] using heffect

end Registry

end Telemetry
