import Telemetry.Proofs.Provider.Bindings

namespace Telemetry.Host

open Lifecycle (Failure Move Scene)
open ProviderCache (Note Traffic)

variable {ε α σ : Type} {s s' : Host ε α}

theorem Placed.accepted {b : Handover} {p : α} (h : s.Placed b p) (hb : b.state = .idle) :
    ∃ hook, s.scene.accepted[b.place]? = some hook ∧ hook.onStart = none ∧
      hook.onStop >>= Callback.target? = some p := by
  obtain ⟨before, hook, after, hmoves, hstart, hstop, hstate, hplace⟩ := h
  have ha := Scene.accepted_append after (h := hook) (.inl (hstate.trans hb))
  rw [← hmoves, hplace] at ha
  exact ⟨hook, ha, hstart, hstop⟩

theorem Accounted.shutdowns_created [DecidableEq α] (h : Accounted s) {b : Handover}
    (hb : b ∈ s.bound) {p : α}
    (hi : s.traffic.lookups[b.lookup]? = some (.finished (.ok ⟨some p, .created⟩)))
    (ht : s.target? (.stop, b.place) = some p) (shutdown : Signal → α → σ → Attempt × σ)
    (start : σ) : s.shutdowns shutdown start p =
      if (.stop, b.place) ∈ s.scene.invocations then 1 else 0 := by
  have hm := made_of_created h.sound hi
  rcases h.sound.candidate hi hm with ⟨_, _, hcl⟩ | ⟨ho, _⟩
  · rw [shutdowns, hcl, h.count_created hb hi ht, List.length_nil, Nat.zero_add]
  · cases ho

/-- When a start call fails, the providers with hooks before the one that failed have been shut down
once, and those with hooks behind it have not been and never will be: no stop call is let in any
more. -/
theorem Reached.shut_down_by_rollback [DecidableEq α] {k : Signal} (h : Reached k s)
    (hidle : ∀ b ∈ s.bound, b.state = .idle) {f : Failure}
    (he : s.scene.Ended .start (.error (.start f)))
    (shutdown : Signal → α → σ → Attempt × σ) (start : σ) :
    ∃ n g, s.scene.accepted[n]? = some g ∧ g.name = f.hook ∧ g.onStart ≠ none ∧
      .returned .start n (.error f.error) ∈ s.scene.log ∧
      (∀ b ∈ s.bound, ∀ p,
        s.traffic.lookups[b.lookup]? = some (.finished (.ok ⟨some p, .created⟩)) →
        (b.place < n ∧ ∀ s', Later k s s' → s'.shutdowns shutdown start p = 1) ∨
        (n < b.place ∧ ∀ s', Later k s s' → s'.shutdowns shutdown start p = 0)) ∧
      ∀ s', Later k s s' → ∃ state, s'.scene.lifecycle.enterStop = .error (.notRunning state) := by
  have hacc := h.accounted
  have hover : s.scene.Over :=
    (Scene.told_run s.moves).over_of_ended he (by rintro e ⟨⟩; rfl) (by simp)
  obtain ⟨i, slot, hi, _, hc⟩ := he
  obtain ⟨n, g, hg, hname, hstart, hback, hbefore, hbehind⟩ := Scene.rolled_back hi hc
  refine ⟨n, g, hg, hname, hstart, hback, fun b hb p hp ↦ ?_, fun s' hlater ↦ ?_⟩
  · obtain ⟨a, ha, hplaced⟩ := hacc.listed b hb
    rw [hp] at ha
    cases ha
    obtain ⟨hook, hhook, hnone, hstop⟩ := (hplaced p rfl).accepted (hidle b hb)
    have ht : s.target? (.stop, b.place) = some p := by
      simp only [target?, Scene.callback?, hhook]
      exact hstop
    have hcount (s' : Host ε α) (hlater : Later k s s') :=
      (Reached.accounted (h.trans hlater)).shutdowns_created (hlater.bound_mono hb)
        (hlater.finished_mono hp) (hlater.target?_mono ht) shutdown start
    rcases Nat.lt_trichotomy b.place n with hlt | heq | hgt
    · have hsome : hook.onStop ≠ none := by
        intro hnone
        rw [hnone] at hstop
        cases hstop
      have hinv := hbefore b.place hook hlt hhook hsome
      refine .inl ⟨hlt, fun s' hlater ↦ ?_⟩
      rw [hcount s' hlater, if_pos (hlater.invoked_mono hinv)]
    · rw [heq] at hhook
      obtain rfl := Option.some_inj.mp (hg.symm.trans hhook)
      exact absurd hnone hstart
    · refine .inr ⟨hgt, fun s' hlater ↦ ?_⟩
      obtain ⟨more, hmoves⟩ := hlater.moves_mono
      have hnot : (.stop, b.place) ∉ s'.scene.invocations := by
        rw [scene, hmoves]
        exact hbehind more b.place (Nat.le_of_lt hgt)
      rw [hcount s' hlater, if_neg hnot]
  · obtain ⟨more, hmoves⟩ := hlater.moves_mono
    have hlate := (Scene.taken_of_over hover more).1
    rw [← hmoves] at hlate
    refine ⟨s'.scene.lifecycle.state, if_neg fun hr ↦ ?_⟩
    rcases hlate with hs | hs <;> cases hr.symm.trans hs

/-- A service whose database does not come up, between the providers of two components. -/
def stranded : Host Unit Nat where
  traffic :=
    { cache := ⟨[("a", some 0), ("b", some 1)]⟩
      lookups := [.finished (.ok ⟨some 0, .created⟩), .finished (.ok ⟨some 1, .created⟩)]
      log := [.inserted 1 "b" 1, .inserted 0 "a" 0, .made 1 (.ok (some 1)), .made 0 (.ok (some 0)),
        .looked 1 ⟨"b", true⟩, .looked 0 ⟨"a", true⟩] }
  moves := [.append (shutdownHook .traces "a" defaultShutdownLimit 0),
    .append ⟨"database", some (.other { result := .error (.failed "refused") }), none⟩] ++
    [.append (shutdownHook .traces "b" defaultShutdownLimit 1)] ++
    [.make .start, .turn 0, .turn 0, .turn 0, .turn 0, .finish 0 (.error (.failed "refused")),
      .turn 0, .turn 0, .finish 0 (.ok ()), .turn 0, .turn 0]
  bound := [⟨1, .idle, 2⟩, ⟨0, .idle, 0⟩]

theorem reached_stranded : Reached .traces stranded := by
  have looked : Traffic.Reached stranded.traffic := by
    have first : Traffic.Reached (Traffic.begin ({} : Traffic Unit Nat) ⟨"a", true⟩
      (.building ⟨"a", true⟩)) := .step .start (.miss rfl)
    have both := first.step (.miss (r := ⟨"b", true⟩) rfl)
    have built := (both.step (.build (i := 0) (some 0) rfl (by simp [Traffic.begin, Note.product?])))
      |>.step (.build (i := 1) (some 1) rfl (by simp [Traffic.begin, Traffic.goOn, Note.product?]))
    have settled := (built.step (.settle (i := 0) rfl)).step (.settle (i := 1) rfl)
    simpa [Traffic.begin, Traffic.goOn, Traffic.settle, ProviderCache.settle, ProviderCache.put,
      ProviderCache.entry?, ProviderCache.arrival?, ProviderCache.live?, Keyed.get?, Keyed.put,
      stranded] using settled
  have first := (Reached.looked .traces looked).tail (.bind (i := 0) "a" rfl (by simp))
  have second := first.trans (Later.moved .traces _
    [.append ⟨"database", some (.other { result := .error (.failed "refused") }), none⟩]
    (by simp [Move.Plain, Callback.target?]))
  have third := second.tail (.bind (i := 1) "b" rfl (by simp))
  exact third.trans (Later.moved .traces _ _ (by simp [Move.Plain]))

theorem stranded_ended :
    stranded.scene.Ended .start (.error (.start ⟨"database", .failed "refused"⟩)) :=
  ⟨0, _, rfl, rfl, rfl⟩

theorem stranded_rolled_back :
    Reached .traces stranded ∧ (∀ b ∈ stranded.bound, b.state = .idle) ∧
    stranded.scene.Ended .start (.error (.start ⟨"database", .failed "refused"⟩)) ∧
    stranded.shutdowns (fun _ _ n ↦ ({}, n + 1)) 0 0 = 1 := by
  have hidle : ∀ b ∈ stranded.bound, b.state = .idle := by simp [stranded]
  obtain ⟨n, g, _, _, _, _, hbound, _⟩ := reached_stranded.shut_down_by_rollback hidle stranded_ended
    (fun _ _ n ↦ ({}, n + 1)) 0
  refine ⟨reached_stranded, hidle, stranded_ended, ?_⟩
  rcases hbound ⟨0, .idle, 0⟩ (by simp [stranded]) 0 rfl with ⟨_, hone⟩ | ⟨hlt, _⟩
  · exact hone stranded .refl
  · exact absurd hlt (Nat.not_lt_zero n)

/-- The start call has failed, and the provider whose hook stands behind the one of the database has
not been shut down. -/
theorem stranded_not_shut_down :
    Reached .traces stranded ∧ (∀ b ∈ stranded.bound, b.state = .idle) ∧
    stranded.scene.Ended .start (.error (.start ⟨"database", .failed "refused"⟩)) ∧
    (⟨1, .idle, 2⟩ : Handover) ∈ stranded.bound ∧
    stranded.traffic.lookups[1]? = some (.finished (.ok ⟨some 1, .created⟩)) ∧
    stranded.shutdowns (fun _ _ n ↦ ({}, n + 1)) 0 1 = 0 ∧
    stranded.scene.lifecycle.enterStop = .error (.notRunning .stopped) :=
  ⟨reached_stranded, by simp [stranded], stranded_ended, by simp [stranded], rfl, rfl, rfl⟩

end Telemetry.Host
