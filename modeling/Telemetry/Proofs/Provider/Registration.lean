import Telemetry.Installation
import Telemetry.Testing.Bench

namespace Telemetry

variable {α : Type}

/-- The answer to binding is borne out by the lifecycle: with `true` it has one more hook, at its
end, which stops the provider and starts nothing; with `false` it is what it was. -/
def BorneOut (k : Signal) (key : String) (r : Resolved α) (before after : Lifecycle (Callback α)) :
    Bool → Prop
  | true => ∃ hook p, r.provider = some p ∧ hook.name = k.name ++ "-provider:" ++ key ∧
      hook.onStart = none ∧ hook.onStop = some (.close k key defaultShutdownLimit p) ∧
      after.hooks = before.hooks ++ [hook]
  | false => after = before

namespace Lifecycle

theorem append_eq_self_iff {κ : Type} (l : Lifecycle κ) {h : Hook κ} (hbare : h.onStart = none) :
    l.append h = l ↔ l.state = .stopping ∨ l.state = .stopped := by
  have grown : ∀ l' : Lifecycle κ, l'.hooks = l.hooks ++ [h] → l' ≠ l := by
    rintro l' hl rfl
    simpa using congrArg List.length hl
  cases hs : l.state with
  | stopping | stopped => simp [append, accepts, hs]
  | idle | starting | running =>
    have ha : l.accepts h = true := by simp [accepts, hs, hbare]
    simpa [append, ha] using grown _ rfl

theorem hooks_append_of_accepts {κ : Type} {l : Lifecycle κ} {h : Hook κ} (ha : l.accepts h = true) :
    (l.append h).hooks = l.hooks ++ [h] := by
  rw [append, if_pos ha]

end Lifecycle

def binding (k : Signal) (key : String) (r : Resolved α) (l : Lifecycle (Callback α)) :
    Bool × Lifecycle (Callback α) :=
  match bindingHook? k key r with
  | some hook => (true, l.append hook)
  | none => (false, l)

theorem binding_fst (k : Signal) (key : String) (r : Resolved α) (l : Lifecycle (Callback α)) :
    (binding k key r l).1 = r.isNew := by
  obtain ⟨provider, origin⟩ := r
  cases provider <;> cases origin <;> rfl

theorem Registry.bind_eq_binding (reg : Registry) (key : String) (k : Signal) (r : Resolved Nat) :
    ((reg.bind key k r).1, (reg.bind key k r).2.lifecycle) = binding k key r reg.lifecycle := by
  unfold Registry.bind binding
  cases bindingHook? k key r <;> rfl

theorem Testing.Bench.bind_eq_binding (b : Bench) (key : String) (r : Resolved Nat) :
    ((b.bind key r).1, (b.bind key r).2.lifecycle) = binding b.signal key r b.lifecycle := by
  unfold Bench.bind binding
  cases bindingHook? b.signal key r <;> rfl

theorem borneOut_binding_iff (k : Signal) (key : String) (r : Resolved α)
    (l : Lifecycle (Callback α)) :
    BorneOut k key r l (binding k key r l).2 (binding k key r l).1 ↔
      ¬ (r.isNew = true ∧ (l.state = .stopping ∨ l.state = .stopped)) := by
  obtain ⟨provider, origin⟩ := r
  cases hn : Resolved.isNew ⟨provider, origin⟩ with
  | false =>
    have hb : binding k key ⟨provider, origin⟩ l = (false, l) := by
      simp [binding, bindingHook?, hn]
    simp [hb, BorneOut]
  | true =>
    obtain ⟨p, rfl⟩ : ∃ p, provider = some p := by
      cases provider with
      | none => simp [Resolved.isNew] at hn
      | some p => exact ⟨p, rfl⟩
    have hb : binding k key ⟨some p, origin⟩ l =
        (true, l.append (shutdownHook k key defaultShutdownLimit p)) := by
      simp [binding, bindingHook?, hn]
    have hself := l.append_eq_self_iff (h := shutdownHook k key defaultShutdownLimit p) rfl
    rw [hb, ← hself]
    simp only [true_and]
    constructor
    · rintro ⟨hook, q, -, -, -, -, hgrown⟩ hsame
      simpa [hsame] using congrArg List.length hgrown
    · intro hchanged
      cases ha : l.accepts (shutdownHook k key defaultShutdownLimit p) with
      | false => exact absurd (if_neg (by simp [ha])) hchanged
      | true => exact ⟨_, p, rfl, rfl, rfl, rfl, Lifecycle.hooks_append_of_accepts ha⟩

/-- Binding answers whether the lookup made the provider. That is borne out by the lifecycle unless
it is stopping or has stopped: then it takes nothing in, and the answer for a new provider is `true`
all the same. -/
theorem bind_borneOut_iff (reg : Registry) (b : Testing.Bench) (key : String) (k : Signal)
    (r : Resolved Nat) :
    ((reg.bind key k r).1 = r.isNew ∧
      (BorneOut k key r reg.lifecycle (reg.bind key k r).2.lifecycle (reg.bind key k r).1 ↔
        ¬ (r.isNew = true ∧
          (reg.lifecycle.state = .stopping ∨ reg.lifecycle.state = .stopped)))) ∧
    (b.bind key r).1 = r.isNew ∧
      (BorneOut b.signal key r b.lifecycle (b.bind key r).2.lifecycle (b.bind key r).1 ↔
        ¬ (r.isNew = true ∧ (b.lifecycle.state = .stopping ∨ b.lifecycle.state = .stopped))) := by
  obtain ⟨hanswer, hafter⟩ := Prod.mk.inj (reg.bind_eq_binding key k r)
  obtain ⟨hanswer', hafter'⟩ := Prod.mk.inj (b.bind_eq_binding key r)
  rw [hanswer, hafter, hanswer', hafter']
  exact ⟨⟨binding_fst .., borneOut_binding_iff ..⟩, binding_fst .., borneOut_binding_iff ..⟩

def Testing.Bench.ended : Testing.Bench :=
  ((({ signal := .traces } : Testing.Bench).call .start).2.call .stop).2

/-- The provider is left without a hook, and its maker is told that it has one. -/
theorem bind_ended_not_borneOut :
    (Testing.Bench.ended.bind "orders" ⟨some 0, .created⟩).1 = true ∧
    (Testing.Bench.ended.bind "orders" ⟨some 0, .created⟩).2.lifecycle.hooks = [] ∧
    ¬ BorneOut .traces "orders" ⟨some 0, .created⟩ Testing.Bench.ended.lifecycle
      (Testing.Bench.ended.bind "orders" ⟨some 0, .created⟩).2.lifecycle
      (Testing.Bench.ended.bind "orders" ⟨some 0, .created⟩).1 := by
  refine ⟨rfl, rfl, ?_⟩
  rintro ⟨hook, p, -, -, -, -, hgrown⟩
  have hnone : Testing.Bench.ended.lifecycle.hooks ++ [hook] = [] := hgrown.symm
  simp at hnone

end Telemetry
