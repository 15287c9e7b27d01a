import Mathlib
import Telemetry.Lifecycle.Alone
import Telemetry.Proofs.Provider.Bindings

namespace Telemetry

def Hook.closes {α : Type} (h : Hook (Callback α)) : Bool :=
  (h.onStop >>= Callback.target?).isSome

namespace Lifecycle

section Calls

variable {κ σ α : Type}

theorem Call.proceed_invariant (t : Timeouts) (exec : κ → σ → Outcome × σ)
    {I : Call κ → Lifecycle κ → σ → Prop}
    (hstep : ∀ c l s next l' es, I c l s → c.turn l = .step next l' es → I next l' s)
    (hinvoke : ∀ c l s next l' es verb k result, I c l s →
      c.turn l = .invoke next l' es verb k → I (next.resume result).1 l' (exec k s).2)
    (fuel : Nat) (c : Call κ) (s : Course κ σ) (h : I c s.lifecycle s.surroundings) :
    I (c.proceed t exec fuel s).1 (c.proceed t exec fuel s).2.lifecycle
      (c.proceed t exec fuel s).2.surroundings := by
  induction fuel generalizing c s with
  | zero => exact h
  | succ fuel ih =>
    cases ht : c.turn s.lifecycle with
    | step next l' es =>
      simp only [Call.proceed, ht]
      exact ih _ _ (hstep _ _ _ _ _ _ h ht)
    | invoke next l' es verb k =>
      simp only [Call.proceed, ht]
      exact ih _ _ (hinvoke _ _ _ _ _ _ _ _ _ h ht)
    | waiting | finished =>
      simp only [Call.proceed, ht]
      exact h

def closers (l : Lifecycle (Callback α)) : List (Hook (Callback α)) := l.hooks.filter Hook.closes

theorem filter_set {p : κ → Bool} {l : List κ} {i : Nat} {a a' : κ} (hi : l[i]? = some a)
    (heq : p a = true → a' = a) (hp : p a' = p a) : (l.set i a').filter p = l.filter p := by
  induction l generalizing i with
  | nil => rfl
  | cons b l ih =>
    cases i with
    | zero =>
      obtain rfl : b = a := by simpa using hi
      cases hb : p b with
      | true => rw [List.set_cons_zero, heq hb]
      | false => simp [hp, hb]
    | succ i => simp only [List.set_cons_succ, List.filter_cons, ih hi]

/-- A call has left the hooks that shut providers down alone, or it has begun to stop. -/
def Untouched (hooks : List (Hook (Callback α))) (call : Call (Callback α))
    (l : Lifecycle (Callback α)) : Prop :=
  match call with
  | .unwind .. | .stopping .. | .close .. => l.state = .stopping
  | .done _ => l.state = .stopped ∨ l.closers = hooks
  | _ => l.closers = hooks

theorem closers_takeStart {l l' : Lifecycle (Callback α)} {entry : String × Option (Callback α)}
    (h : l.takeStart = some (entry, l')) (hbare : ∀ g ∈ l.closers, g.onStart = none) :
    l'.closers = l.closers := by
  obtain ⟨g, hg, he⟩ := Option.map_eq_some_iff.mp h
  obtain ⟨_, rfl⟩ := Prod.mk.inj he
  refine filter_set hg (fun hc ↦ ?_) rfl
  have hnone := hbare g (List.mem_filter.mpr ⟨List.mem_of_getElem? hg, hc⟩)
  obtain ⟨name, onStart, onStop⟩ := g
  simp only at hnone
  rw [hnone]

theorem Untouched.step {hooks : List (Hook (Callback α))} (hbare : ∀ g ∈ hooks, g.onStart = none)
    {c next : Call (Callback α)} {l l' : Lifecycle (Callback α)} {es : List Event}
    (h : Untouched hooks c l) (ht : c.turn l = .step next l' es) : Untouched hooks next l' := by
  cases c with
  | enter verb =>
    cases verb with
    | start =>
      simp only [Call.turn, enterStart] at ht
      split at ht <;> rename_i he <;> split at he <;> cases he <;> cases ht
      · exact h
      · exact .inr h
    | stop =>
      simp only [Call.turn, enterStop] at ht
      split at ht <;> rename_i he <;> split at he <;> cases he <;> cases ht
      · exact h
      · exact .inr h
  | seek =>
    -- Only here may a hook change.
    obtain rfl : l.closers = hooks := h
    simp only [Call.turn] at ht
    split at ht <;> cases ht
    · exact rfl
    · exact closers_takeStart ‹_› hbare
  | count | settle =>
    cases ht
    first | exact h | exact .inr h
  | drain cause =>
    cases ht
    exact rfl
  | unwind cause rest failures =>
    rcases rest with - | ⟨⟨name, - | callback⟩, rest⟩
    · cases ht
      exact h
    · cases ht
      exact h
    · cases ht
  | close cause failures =>
    cases ht
    exact .inl rfl
  | starting | stopping | done => cases ht

theorem Untouched.invoke {hooks : List (Hook (Callback α))}
    (hbare : ∀ g ∈ hooks, g.onStart = none) {c next : Call (Callback α)}
    {l l' : Lifecycle (Callback α)} {es : List Event} {verb : Verb} {k : Callback α}
    (h : Untouched hooks c l) (ht : c.turn l = .invoke next l' es verb k)
    (result : Except HookError Unit) : Untouched hooks (next.resume result).1 l' := by
  cases c with
  | enter verb =>
    cases verb <;> simp only [Call.turn] at ht <;> split at ht <;> cases ht
  | seek =>
    obtain rfl : l.closers = hooks := h
    simp only [Call.turn] at ht
    split at ht <;> cases ht
    have hc := closers_takeStart ‹_› hbare
    cases result <;> exact hc
  | unwind cause rest failures =>
    rcases rest with - | ⟨⟨name, - | callback⟩, rest⟩
    · cases ht
    · cases ht
    · cases ht
      cases result <;> exact h
  | _ => cases ht

def Calm (l : Lifecycle κ) : Prop := l.state = .idle ∨ l.state = .running

theorem Calm.ne_stopping {l : Lifecycle κ} (h : l.Calm) : l.state ≠ .stopping := by
  rcases h with hs | hs <;> simp [hs]

theorem Calm.ne_stopped {l : Lifecycle κ} (h : l.Calm) : l.state ≠ .stopped := by
  rcases h with hs | hs <;> simp [hs]

theorem Calm.accepts {l : Lifecycle κ} (h : l.Calm) {hook : Hook κ} (hbare : hook.onStart = none) :
    l.accepts hook = true := by
  rcases h with hs | hs <;> simp [Lifecycle.accepts, hs, hbare]

theorem Untouched.closers_eq {hooks : List (Hook (Callback α))} {c : Call (Callback α)}
    {l : Lifecycle (Callback α)} (h : Untouched hooks c l) (hcalm : l.Calm) :
    l.closers = hooks := by
  cases c with
  | unwind | stopping | close => exact absurd h hcalm.ne_stopping
  | done result => exact h.resolve_left hcalm.ne_stopped
  | _ => exact h

theorem runAlone_snd (t : Timeouts) (exec : κ → σ → Outcome × σ) (verb : Verb)
    (s : Course κ σ) : (runAlone t exec verb s).2 =
      ((Call.enter verb).proceed t exec (6 * (s.lifecycle.size + 2)) s).2 := by
  unfold runAlone
  split <;> simp_all

theorem closers_runAlone (t : Timeouts) (exec : Callback α → σ → Outcome × σ) (verb : Verb)
    (s : Course (Callback α) σ) (hbare : ∀ g ∈ s.lifecycle.closers, g.onStart = none)
    (hcalm : (runAlone t exec verb s).2.lifecycle.Calm) :
    (runAlone t exec verb s).2.lifecycle.closers = s.lifecycle.closers := by
  rw [runAlone_snd] at hcalm ⊢
  have h := Call.proceed_invariant t exec (I := fun c l _ ↦ Untouched s.lifecycle.closers c l)
    (fun _ _ _ _ _ _ hc ht ↦ hc.step hbare ht)
    (fun _ _ _ _ _ _ _ _ result hc ht ↦ hc.invoke hbare ht result)
    (6 * (s.lifecycle.size + 2)) (.enter verb) s rfl
  exact h.closers_eq hcalm

theorem surroundings_runAlone {P : σ → Prop} (t : Timeouts) (exec : κ → σ → Outcome × σ)
    (verb : Verb) (s : Course κ σ) (hexec : ∀ k s, P s → P (exec k s).2)
    (h : P s.surroundings) : P (runAlone t exec verb s).2.surroundings := by
  rw [runAlone_snd]
  exact Call.proceed_invariant t exec (I := fun _ _ s ↦ P s) (fun _ _ _ _ _ _ hs _ ↦ hs)
    (fun _ _ s _ _ _ _ k _ hs _ ↦ hexec k s hs) _ _ s h

theorem state_append (l : Lifecycle κ) (h : Hook κ) : (l.append h).state = l.state := by
  unfold append
  split <;> rfl

theorem closers_append_of_closes {l : Lifecycle (Callback α)} (hcalm : l.Calm)
    {h : Hook (Callback α)} (hbare : h.onStart = none) (hc : h.closes = true) :
    (l.append h).closers = l.closers ++ [h] := by
  simp [append, hcalm.accepts hbare, closers, hc]

theorem closers_append_of_plain (l : Lifecycle (Callback α)) {h : Hook (Callback α)}
    (hc : h.closes = false) : (l.append h).closers = l.closers := by
  unfold append
  split
  · simp [closers, hc]
  · rfl

end Calls

end Lifecycle

end Telemetry
