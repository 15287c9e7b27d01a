import Mathlib
import Telemetry.Proofs.Binary64.Decimals

namespace Telemetry.Binary64

variable {x y : Binary64} {q : ℚ} {n d n' d' : ℕ}

section Exactness

/-- The patterns have every integer of less than 54 bits at every place. -/
theorem exists_number {e m : ℕ} (hm : m < 2 ^ 53) (he : e ≤ 2045) :
    ∃ y : Binary64, y.isNaN = false ∧ y.value = m * 2 ^ ((e : ℤ) - 1074) := by
  induction e generalizing m with
  | zero =>
    refine ⟨_, ?_, (value_word (e := 0) (r := m) hm.le (.inl rfl) (by omega)).1⟩
    rw [isNaN_eq_false_iff, magnitude_ofNat (by omega)]
    omega
  | succ e ih =>
    by_cases hlead : 2 ^ 52 ≤ m
    · refine ⟨_, ?_, (value_word (e := e + 1) hm.le (.inr hlead) (by omega)).1⟩
      rw [isNaN_eq_false_iff, magnitude_ofNat (by omega)]
      omega
    · obtain ⟨y, hy, hvalue⟩ := ih (m := 2 * m) (by omega) (by omega)
      refine ⟨y, hy, hvalue.trans ?_⟩
      have hplace : ((e + 1 : ℕ) : ℤ) - 1074 = (e : ℤ) - 1074 + 1 := by omega
      rw [hplace, zpow_add_one₀ two_ne_zero]
      push_cast
      ring

theorem Rounds.value_eq (h : Rounds q x) (hy : y.isNaN = false) (hq : y.value = q) :
    x.value = q := by
  have hnear := h.nearest y hy
  rw [hq, sub_self, abs_zero] at hnear
  exact (sub_eq_zero.mp (abs_nonpos_iff.mp hnear)).symm

theorem size_ofNat {m k : ℕ} (hm : m < 2 ^ 53) (hk : k ≤ 971) :
    (ofNat (m * 2 ^ k)).size = m * 2 ^ k := by
  obtain ⟨y, hy, hvalue⟩ := exists_number (e := k + 1074) hm (by omega)
  have hplace : ((k + 1074 : ℕ) : ℤ) - 1074 = k := by omega
  have hrounds := rounds_ofRatio (m * 2 ^ k) one_pos
  rw [Nat.cast_one, div_one] at hrounds
  push_cast at hrounds
  rw [hplace, zpow_natCast] at hvalue
  have hexact := hrounds.value_eq hy hvalue
  rw [← abs_value, ofNat, hexact]
  exact abs_of_nonneg (by positivity)

theorem size_tenTo {k : ℕ} (hk : k ≤ 22) : (tenTo k).size = 10 ^ k := by
  have hsplit : 10 ^ k = 5 ^ k * 2 ^ k := by norm_num [← mul_pow]
  have hsmall : 5 ^ k < 2 ^ 53 := by
    calc 5 ^ k
      _ ≤ 5 ^ 22 := Nat.pow_le_pow_right (by omega) hk
      _ < 2 ^ 53 := by decide
  have hsize := size_ofNat hsmall (show k ≤ 971 by omega)
  rw [tenTo, Nat.pow_eq, hsplit, hsize]
  push_cast
  rw [← mul_pow]
  norm_num

end Exactness

section Equal

theorem roundDiv_congr {a b a' b' : ℕ} (hb : 0 < b) (hb' : 0 < b') (h : (a : ℚ) / b = a' / b') :
    roundDiv a b = roundDiv a' b' := by
  obtain ⟨hnear, heven⟩ := roundDiv_near (a := a) hb
  obtain ⟨hnear', heven'⟩ := roundDiv_near (a := a') hb'
  rw [← h] at hnear' heven'
  generalize roundDiv a b = r at *
  generalize roundDiv a' b' = r' at *
  obtain ⟨hle, htie⟩ := near_integer hnear heven r'
  obtain ⟨hle', htie'⟩ := near_integer hnear' heven' r
  push_cast at hle htie hle' htie'
  -- Two different integers that are equally near to one number are neighbours, and both are even.
  by_contra hne
  have hcast : (r' : ℚ) ≠ r := by exact_mod_cast Ne.symm hne
  have hr := htie (le_antisymm hle' hle) hcast
  have hr' := htie' (le_antisymm hle hle') hcast.symm
  have hgap : |(r : ℚ) - r'| ≤ 1 := by
    have htriangle := abs_sub_le (r : ℚ) ((a : ℚ) / b) r'
    rw [abs_sub_comm] at hnear
    linarith
  have hclose : |(r : ℤ) - r'| ≤ 1 := by exact_mod_cast hgap
  rw [Nat.even_iff] at hr hr'
  rw [abs_le] at hclose
  omega

theorem top_le (hn : n ≠ 0) (hd : 0 < d) (hn' : n' ≠ 0) (hd' : 0 < d') (h : (n : ℚ) / d = n' / d') :
    top n d ≤ top n' d' := by
  have hlow := (top_spec hn hd).1
  have hhigh := (top_spec hn' hd').2
  rw [h] at hlow
  have hlt := (zpow_lt_zpow_iff_right₀ (one_lt_two (α := ℚ))).mp (hlow.trans_lt hhigh)
  omega

theorem ofRatio_congr (hd : 0 < d) (hd' : 0 < d') (h : (n : ℚ) / d = n' / d') :
    ofRatio n d = ofRatio n' d' := by
  have hvanish {a b : ℕ} (hb : 0 < b) : (a : ℚ) / b = 0 ↔ a = 0 := by
    simp [hb.ne']
  have hzero : n = 0 ↔ n' = 0 := by rw [← hvanish hd, h, hvanish hd']
  by_cases hn : n = 0
  · rw [ofRatio, ofRatio, if_pos hn, if_pos (hzero.mp hn)]
  · have hn' : n' ≠ 0 := hzero.not.mp hn
    have hlow : low n d = low n' d' := by
      rw [low, low, le_antisymm (top_le hn hd hn' hd' h) (top_le hn' hd' hn hd h.symm)]
    rw [ofRatio_eq hn, ofRatio_eq hn', hlow]
    congr 4
    apply roundDiv_congr (shifted_pos hd) (shifted_pos hd')
    rw [shifted_div, shifted_div, h]

theorem mul_eq_ofRatio (hd : 0 < d) (h : x.size * y.size = n / d) : x.mul y = ofRatio n d := by
  unfold mul
  dsimp only
  apply ofRatio_congr (shifted_pos one_pos) hd
  rw [shifted_div, ← h, size, size, zpow_add₀ two_ne_zero]
  push_cast
  ring

theorem div_eq_ofRatio (hd : 0 < d) (hy : 0 < y.significand) (h : x.size / y.size = n / d) :
    x.div y = ofRatio n d := by
  unfold div
  dsimp only
  apply ofRatio_congr (shifted_pos hy) hd
  rw [shifted_div, ← h, size, size, zpow_sub₀ two_ne_zero, mul_div_mul_comm]

end Equal

/-- Integers of less than 54 bits have few digits, so that a small exponent is not cut short. -/
theorem ofDecimal_eq_ofRatio {z : ℤ} (hn : n < 2 ^ 53) (hz : z.natAbs ≤ 22) :
    ofDecimal n z = ofRatio (n * 10 ^ z.toNat) (10 ^ (-z).toNat) := by
  by_cases hzero : n = 0
  · simp [ofDecimal, ofRatio, hzero]
  · have hlength : (Nat.toDigits 10 n).length ≤ 16 := by
      have hle := (length_toDigits hzero).2
      have hlt : 10 ^ ((Nat.toDigits 10 n).length - 1) < 10 ^ 16 := by omega
      have hexponent := (Nat.pow_lt_pow_iff_right (by omega)).mp hlt
      omega
    unfold ofDecimal
    dsimp only
    rw [if_neg, if_neg]
    · rfl
    · omega
    · simp only [hzero, decide_false, Bool.false_or, decide_eq_true_eq]
      omega

/-- An integer of less than 54 bits and a small power of ten are numbers, so that their product and
their quotient are rounded only once. -/
theorem scale_eq_ofDecimal {z : ℤ} (hn : n < 2 ^ 53) (hz : z.natAbs ≤ 22) :
    (ofNat n).scale z = ofDecimal n z := by
  have hsize : (ofNat n).size = n := by simpa using size_ofNat (k := 0) hn (by omega)
  have hten := size_tenTo hz
  rw [ofDecimal_eq_ofRatio hn hz, scale, if_pos (by omega)]
  split
  · next hpos =>
    apply mul_eq_ofRatio (by positivity)
    have hexponent : z.toNat = z.natAbs ∧ (-z).toNat = 0 := by omega
    rw [hsize, hten, hexponent.1, hexponent.2]
    push_cast
    ring
  · next hneg =>
    have hexponent : z.toNat = 0 ∧ (-z).toNat = z.natAbs := by omega
    have hsignificand : 0 < (tenTo z.natAbs).significand := by
      apply Nat.pos_of_ne_zero
      intro hzero
      rw [size, hzero, Nat.cast_zero, zero_mul] at hten
      exact absurd hten.symm (by positivity)
    apply div_eq_ofRatio (by positivity) hsignificand
    rw [hsize, hten, hexponent.1, hexponent.2]
    push_cast
    ring

end Telemetry.Binary64
