import Mathlib
import Telemetry.Text.Digits

namespace Telemetry.Digits

variable {c : Char} {cs : List Char} {d n : ℕ} {w : UInt64}

inductive Numeral : List Char → ℕ → Prop
  | digit {d : ℕ} (hd : d < 10) : Numeral [Nat.digitChar d] d
  | more {cs : List Char} {n d : ℕ} (hcs : Numeral cs n) (hd : d < 10) :
      Numeral (cs ++ [Nat.digitChar d]) (10 * n + d)

section Positional

theorem value_concat (cs : List Char) (c : Char) :
    value (cs ++ [c]) = 10 * value cs + (c.toNat - 48) := by
  rw [value, List.foldl_append]
  rfl

theorem value_le_append (ds cs : List Char) : value ds ≤ value (ds ++ cs) := by
  induction cs using List.reverseRecOn with
  | nil => rw [List.append_nil]
  | append_singleton cs c ih =>
    rw [← List.append_assoc, value_concat]
    omega

theorem isDigit_digitChar (hd : d < 10) : isDigit (Nat.digitChar d) = true :=
  (by decide : ∀ d < 10, isDigit (Nat.digitChar d) = true) d hd

theorem toNat_digitChar (hd : d < 10) : (Nat.digitChar d).toNat - 48 = d :=
  (by decide : ∀ d < 10, (Nat.digitChar d).toNat - 48 = d) d hd

theorem toNat_of_isDigit (h : isDigit c = true) : 48 ≤ c.toNat ∧ c.toNat ≤ 57 := by
  simp only [isDigit, Bool.and_eq_true, decide_eq_true_eq] at h
  exact h

theorem eq_digitChar (h : isDigit c = true) : c = Nat.digitChar (c.toNat - 48) := by
  obtain ⟨hlow, hhigh⟩ := toNat_of_isDigit h
  have hchar : ∀ n < 58, 48 ≤ n → Char.ofNat n = Nat.digitChar (n - 48) := by decide
  rw [← hchar c.toNat (by omega) hlow, Char.ofNat_toNat]

theorem Numeral.ne_nil (h : Numeral cs n) : cs ≠ [] := by
  cases h <;> simp

theorem Numeral.isDigit (h : Numeral cs n) : ∀ c ∈ cs, Digits.isDigit c = true := by
  induction h with
  | digit hd => exact List.forall_mem_singleton.mpr (isDigit_digitChar hd)
  | more hcs hd ih =>
    exact List.forall_mem_append.mpr ⟨ih, List.forall_mem_singleton.mpr (isDigit_digitChar hd)⟩

theorem Numeral.value_eq (h : Numeral cs n) : value cs = n := by
  induction h with
  | @digit d hd =>
    have hsingle := value_concat [] (Nat.digitChar d)
    rw [toNat_digitChar hd] at hsingle
    simpa [value] using hsingle
  | more hcs hd ih => rw [value_concat, ih, toNat_digitChar hd]

theorem numeral_value (hne : cs ≠ []) (hcs : ∀ c ∈ cs, isDigit c = true) :
    Numeral cs (value cs) := by
  induction cs using List.reverseRecOn with
  | nil => exact absurd rfl hne
  | append_singleton cs c ih =>
    obtain ⟨hinit, hlast⟩ := List.forall_mem_append.mp hcs
    have hc : isDigit c = true := hlast c (List.mem_singleton_self c)
    have hd : c.toNat - 48 < 10 := by
      have hbounds := toNat_of_isDigit hc
      omega
    rw [value_concat]
    by_cases hnil : cs = []
    · have hsingle := Numeral.digit hd
      rw [← eq_digitChar hc] at hsingle
      simpa [hnil, value] using hsingle
    · have hmore := Numeral.more (ih hnil hinit) hd
      rwa [← eq_digitChar hc] at hmore

theorem numeral_iff :
    Numeral cs n ↔ cs ≠ [] ∧ (∀ c ∈ cs, isDigit c = true) ∧ value cs = n := by
  constructor
  · intro h
    exact ⟨h.ne_nil, h.isDigit, h.value_eq⟩
  · rintro ⟨hne, hcs, rfl⟩
    exact numeral_value hne hcs

end Positional

section Words

def push? (w : UInt64) (c : Char) : Option UInt64 :=
  if 10 * w.toNat + (c.toNat - 48) < 2 ^ 64 then some (10 * w + UInt64.ofNat (c.toNat - 48))
  else none

def word? (cs : List Char) : Option UInt64 := cs.foldlM push? 0

theorem push?_eq_some_iff {v : UInt64} :
    push? w c = some v ↔ 10 * w.toNat + (c.toNat - 48) = v.toNat := by
  have hfit {k : ℕ} (h : 10 * w.toNat + k < 2 ^ 64) :
      (10 * w + UInt64.ofNat k).toNat = 10 * w.toNat + k := by
    simp only [UInt64.toNat_add, UInt64.toNat_mul, UInt64.toNat_ofNat', UInt64.reduceToNat]
    omega
  unfold push?
  split
  · next hlt => rw [Option.some_inj, ← UInt64.toNat_inj, hfit hlt]
  · next hlt =>
    have hv := v.toNat_lt
    constructor
    · intro h
      cases h
    · intro h
      omega

theorem word?_concat (cs : List Char) (c : Char) :
    word? (cs ++ [c]) = (word? cs).bind fun w ↦ push? w c := by
  rw [word?, List.foldlM_append]
  simp only [List.foldlM_cons, List.foldlM_nil, bind_pure]
  rfl

theorem word?_eq_some_iff : word? cs = some w ↔ value cs = w.toNat := by
  induction cs using List.reverseRecOn generalizing w with
  | nil =>
    have hzero : word? [] = some 0 := rfl
    rw [hzero, Option.some_inj, ← UInt64.toNat_inj]
    rfl
  | append_singleton cs c ih =>
    rw [word?_concat, Option.bind_eq_some_iff, value_concat]
    constructor
    · intro h
      obtain ⟨v, hv, hpush⟩ := h
      rw [ih.mp hv, push?_eq_some_iff.mp hpush]
    · intro h
      have hfit : (UInt64.ofNat (value cs)).toNat = value cs := by
        have hw := w.toNat_lt
        rw [UInt64.toNat_ofNat']
        exact Nat.mod_eq_of_lt (by omega)
      exact ⟨UInt64.ofNat (value cs), ih.mpr hfit.symm, push?_eq_some_iff.mpr (by rw [hfit, h])⟩

theorem word?_eq_none_iff : word? cs = none ↔ 2 ^ 64 ≤ value cs := by
  rw [Option.eq_none_iff_forall_ne_some]
  simp only [ne_eq, word?_eq_some_iff]
  constructor
  · intro h
    by_contra hlt
    apply h (UInt64.ofNat (value cs))
    rw [UInt64.toNat_ofNat']
    exact (Nat.mod_eq_of_lt (by omega)).symm
  · intro h w hw
    have hlt := w.toNat_lt
    omega

end Words

end Telemetry.Digits
