import Mathlib
import Telemetry.Binary64.Basic

namespace Telemetry.Binary64

variable {x y : Binary64} {q t : ℚ} {n d : ℕ}

def size (x : Binary64) : ℚ := x.significand * 2 ^ x.power

def value (x : Binary64) : ℚ := if x.isNegative then -x.size else x.size

/-- The number nearest to `q`. Of two that are equally near it is the one with the even
significand. -/
structure Rounds (q : ℚ) (x : Binary64) : Prop where
  number : x.isNaN = false
  nearest : ∀ y : Binary64, y.isNaN = false → |q - x.value| ≤ |q - y.value|
  even : ∀ y : Binary64, y.isNaN = false → |q - y.value| = |q - x.value| → y.value ≠ x.value →
    Even x.significand

section Fields

theorem magnitude_infinity : infinity.magnitude = 2047 * 2 ^ 52 := by decide

theorem isNaN_eq_false_iff : x.isNaN = false ↔ x.magnitude ≤ 2047 * 2 ^ 52 := by
  rw [isNaN, magnitude_infinity, decide_eq_false_iff_not, Nat.not_lt]

theorem isFinite_iff : x.isFinite = true ↔ x.magnitude < 2047 * 2 ^ 52 := by
  rw [isFinite, magnitude_infinity, decide_eq_true_iff]

theorem number_of_isFinite (h : x.isFinite = true) : x.isNaN = false :=
  isNaN_eq_false_iff.mpr (isFinite_iff.mp h).le

theorem significand_lt (x : Binary64) : x.significand < 2 ^ 53 := by
  unfold significand
  simp only [Nat.pow_eq]
  split <;> omega

theorem le_power (x : Binary64) : -1074 ≤ x.power := by
  unfold power
  simp only [Nat.pow_eq]
  split <;> omega

theorem power_le (h : x.isFinite = true) : x.power ≤ 971 := by
  rw [isFinite_iff] at h
  unfold power
  simp only [Nat.pow_eq]
  split <;> omega

theorem fields_of_magnitude_lt (h : x.magnitude < y.magnitude) :
    x.power = y.power ∧ x.significand < y.significand ∨
      x.power < y.power ∧ 2 ^ 52 ≤ y.significand := by
  unfold power significand
  simp only [Nat.pow_eq]
  split <;> split <;> omega

theorem two_zpow_pos (p : ℤ) : (0 : ℚ) < 2 ^ p := by positivity

theorem two_zpow_le {p r : ℤ} (h : p ≤ r) : (2 : ℚ) ^ p ≤ 2 ^ r :=
  zpow_le_zpow_right₀ one_le_two h

theorem size_nonneg (x : Binary64) : 0 ≤ x.size := by
  unfold size
  positivity

theorem size_lt_of_magnitude_lt (h : x.magnitude < y.magnitude) : x.size < y.size := by
  unfold size
  rcases fields_of_magnitude_lt h with ⟨hpower, hlt⟩ | ⟨hpower, hlead⟩
  · rw [hpower]
    have hcast : (x.significand : ℚ) < y.significand := by exact_mod_cast hlt
    exact mul_lt_mul_of_pos_right hcast (two_zpow_pos _)
  · have hx : (x.significand : ℚ) < 2 ^ 53 := by exact_mod_cast x.significand_lt
    have hy : (2 : ℚ) ^ 52 ≤ y.significand := by exact_mod_cast hlead
    calc (x.significand : ℚ) * 2 ^ x.power
      _ < 2 ^ 53 * 2 ^ x.power := mul_lt_mul_of_pos_right hx (two_zpow_pos _)
      _ = 2 ^ 52 * 2 ^ (x.power + 1) := by
        rw [zpow_add_one₀ two_ne_zero]
        ring
      _ ≤ 2 ^ 52 * 2 ^ y.power := by
        have hstep := two_zpow_le (Int.add_one_le_of_lt hpower)
        gcongr
      _ ≤ y.significand * 2 ^ y.power := by
        have hpos := two_zpow_pos y.power
        gcongr

theorem size_eq_of_magnitude_eq (h : x.magnitude = y.magnitude) : x.size = y.size := by
  unfold size significand power
  rw [h]

theorem size_lt_iff : x.size < y.size ↔ x.magnitude < y.magnitude := by
  constructor
  · intro h
    by_contra hle
    rcases Nat.lt_or_eq_of_le (Nat.le_of_not_lt hle) with hlt | heq
    · exact absurd (size_lt_of_magnitude_lt hlt) h.not_gt
    · exact absurd (size_eq_of_magnitude_eq heq) h.ne'
  · exact size_lt_of_magnitude_lt

theorem size_le_iff : x.size ≤ y.size ↔ x.magnitude ≤ y.magnitude := by
  rw [← not_lt, size_lt_iff, Nat.not_lt]

end Fields

section Values

theorem abs_value (x : Binary64) : |x.value| = x.size := by
  unfold value
  split
  · rw [abs_neg, abs_of_nonneg x.size_nonneg]
  · exact abs_of_nonneg x.size_nonneg

theorem value_of_fields {m : ℕ} {p : ℤ} (hpositive : x.isNegative = false)
    (hsignificand : x.significand = m) (hpower : x.power = p) : x.value = m * 2 ^ p := by
  rw [value, hpositive, if_neg Bool.false_ne_true, size, hsignificand, hpower]

theorem value_zero : zero.value = 0 := by
  have hfields := value_of_fields (x := zero) (m := 0) rfl rfl rfl
  rwa [Nat.cast_zero, zero_mul] at hfields

theorem value_one : one.value = 1 := by
  have hfields := value_of_fields (x := one) (m := 2 ^ 52) (p := -52) rfl rfl rfl
  rw [hfields]
  norm_num

theorem size_pos_iff : 0 < x.size ↔ 0 < x.magnitude := by
  have hzero : zero.size = 0 := value_zero
  rw [← hzero]
  exact size_lt_iff

theorem lt_iff (hx : x.isNaN = false) (hy : y.isNaN = false) :
    x.lt y = true ↔ x.value < y.value := by
  have hlt : x.lt y = true ↔ x.rank < y.rank := by simp [lt, hx, hy]
  have hxnonneg := x.size_nonneg
  have hynonneg := y.size_nonneg
  rw [hlt]
  unfold rank value
  cases x.isNegative <;> cases y.isNegative <;> simp only [Bool.false_eq_true, if_true, if_false]
  · rw [size_lt_iff, Int.ofNat_lt]
  · -- Zero is not below zero, whatever the signs are.
    exact iff_of_false (by omega) (by linarith)
  · have hapart : -x.size < y.size ↔ 0 < x.size ∨ 0 < y.size := by
      constructor
      · intro h
        by_contra hzero
        rw [not_or, not_lt, not_lt] at hzero
        linarith
      · rintro (h | h) <;> linarith
    rw [hapart, size_pos_iff, size_pos_iff]
    omega
  · rw [neg_lt_neg_iff, neg_lt_neg_iff, size_lt_iff, Int.ofNat_lt]

theorem clamp_unit (hx : x.isNaN = false) : x.clamp zero one =
    if x.value < 0 then zero else if 1 < x.value then one else x := by
  have hbelow : x.lt zero = true ↔ x.value < 0 := by rw [lt_iff hx rfl, value_zero]
  have habove : one.lt x = true ↔ 1 < x.value := by rw [lt_iff rfl hx, value_one]
  have hzero : one.lt zero = false := by decide
  unfold clamp
  by_cases h : x.value < 0
  · rw [if_pos h, if_pos (hbelow.mpr h)]
    dsimp only
    rw [hzero, if_neg Bool.false_ne_true]
  · rw [if_neg h, if_neg (hbelow.not.mpr h)]
    simp only [habove]

theorem exists_value_eq (x : Binary64) :
    ∃ m p : ℤ, x.value = m * 2 ^ p ∧ |(m : ℚ)| < 2 ^ 53 ∧ -1074 ≤ p := by
  have hlt : (x.significand : ℚ) < 2 ^ 53 := by exact_mod_cast x.significand_lt
  have habs : |(x.significand : ℚ)| < 2 ^ 53 := by rwa [Nat.abs_cast]
  unfold value size
  split
  · refine ⟨-x.significand, x.power, ?_, ?_, x.le_power⟩
    · push_cast
      ring
    · push_cast
      rwa [abs_neg]
  · refine ⟨x.significand, x.power, ?_, ?_, x.le_power⟩
    · push_cast
      rfl
    · push_cast
      exact habs

def largest : Binary64 := ⟨0x7FEFFFFFFFFFFFFF⟩

theorem value_largest : largest.value = (2 ^ 53 - 1) * 2 ^ (971 : ℤ) := by
  have hfields := value_of_fields (x := largest) (m := 2 ^ 53 - 1) (p := 971) rfl rfl rfl
  rw [hfields]
  norm_num

theorem value_infinity : infinity.value = 2 ^ (1024 : ℤ) := by
  have hfields := value_of_fields (x := infinity) (m := 2 ^ 52) (p := 972) rfl rfl rfl
  have hsum : (2 : ℚ) ^ (1024 : ℤ) = 2 ^ (52 : ℤ) * 2 ^ (972 : ℤ) := by
    rw [← zpow_add₀ two_ne_zero]
    rfl
  rw [hfields, hsum]
  norm_num

theorem size_le_infinity (h : x.isNaN = false) : x.size ≤ infinity.value := by
  have hpositive : infinity.value = infinity.size := rfl
  rw [hpositive, size_le_iff, magnitude_infinity]
  exact isNaN_eq_false_iff.mp h

theorem size_le_largest (h : x.isFinite = true) : x.size ≤ largest.value := by
  have hpositive : largest.value = largest.size := rfl
  have hmagnitude : largest.magnitude = 2047 * 2 ^ 52 - 1 := by decide
  rw [isFinite_iff] at h
  rw [hpositive, size_le_iff, hmagnitude]
  omega

end Values

section Grid

theorem near_integer {r : ℕ} (h : |t - r| ≤ 1 / 2) (heven : |t - r| = 1 / 2 → Even r) (k : ℤ) :
    |t - r| ≤ |t - k| ∧ (|t - k| = |t - r| → (k : ℚ) ≠ r → Even r) := by
  by_cases hk : (k : ℚ) = r
  · exact ⟨by rw [hk], fun _ hne ↦ absurd hk hne⟩
  · have hapart : (1 : ℚ) ≤ |(r : ℚ) - k| := by
      have hne : (r : ℤ) - k ≠ 0 := by
        intro hzero
        exact hk (by exact_mod_cast (sub_eq_zero.mp hzero).symm)
      exact_mod_cast Int.one_le_abs hne
    have htriangle : |(r : ℚ) - k| ≤ |t - r| + |t - k| := by
      rw [abs_sub_comm t r]
      exact abs_sub_le _ _ _
    refine ⟨by linarith, fun heq _ ↦ heven ?_⟩
    linarith

/-- Rounding to a grid that is fine enough where `q` lies. A number that is not on the grid is too
small for its last place to matter: it is below the grid's power of two under `q`. -/
theorem nearest_on_grid {r : ℕ} {low m p : ℤ} (hr : |q / 2 ^ low - r| ≤ 1 / 2)
    (heven : |q / 2 ^ low - r| = 1 / 2 → Even r) (hlow : low = -1074 ∨ 2 ^ 52 * 2 ^ low ≤ q)
    (hm : |(m : ℚ)| < 2 ^ 53) (hp : -1074 ≤ p) :
    |q - r * 2 ^ low| ≤ |q - m * 2 ^ p| ∧
      (|q - m * 2 ^ p| = |q - r * 2 ^ low| → (m : ℚ) * 2 ^ p ≠ r * 2 ^ low → Even r) := by
  have hunit : (0 : ℚ) < 2 ^ low := two_zpow_pos low
  have hscale (k : ℚ) : |q - k * 2 ^ low| = |q / 2 ^ low - k| * 2 ^ low := by
    rw [← abs_of_pos hunit, ← abs_mul, abs_of_pos hunit, sub_mul, div_mul_cancel₀ _ hunit.ne']
  by_cases hgrid : low ≤ p
  · obtain ⟨j, rfl⟩ := Int.le.dest hgrid
    have hk : (m : ℚ) * 2 ^ (low + (j : ℤ)) = ((m * 2 ^ j : ℤ) : ℚ) * 2 ^ low := by
      rw [zpow_add₀ two_ne_zero, zpow_natCast]
      push_cast
      ring
    obtain ⟨hnear, htie⟩ := near_integer hr heven (m * 2 ^ j)
    rw [hk, hscale, hscale]
    refine ⟨mul_le_mul_of_nonneg_right hnear hunit.le, fun heq hne ↦ ?_⟩
    apply htie (mul_right_cancel₀ hunit.ne' heq)
    intro hsame
    exact hne (by rw [hsame])
  · have hstep : p + 1 ≤ low := by omega
    have hlead : 2 ^ 52 * 2 ^ low ≤ q := hlow.resolve_left (by omega)
    have hsmall : |(m : ℚ) * 2 ^ p| < 2 ^ 52 * 2 ^ low := by
      rw [abs_mul, abs_of_pos (two_zpow_pos p)]
      calc |(m : ℚ)| * 2 ^ p
        _ < 2 ^ 53 * 2 ^ p := mul_lt_mul_of_pos_right hm (two_zpow_pos p)
        _ = 2 ^ 52 * 2 ^ (p + 1) := by
          rw [zpow_add_one₀ two_ne_zero]
          ring
        _ ≤ 2 ^ 52 * 2 ^ low := by
          have hle := two_zpow_le hstep
          gcongr
    have hnear : |q - r * 2 ^ low| ≤ q - 2 ^ 52 * 2 ^ low := by
      have hpower := (near_integer hr heven (2 ^ 52)).1
      have hpos : 0 ≤ q - 2 ^ 52 * 2 ^ low := sub_nonneg.mpr hlead
      push_cast at hpower
      rw [← abs_of_nonneg hpos, hscale, hscale]
      exact mul_le_mul_of_nonneg_right hpower hunit.le
    have hfar : q - 2 ^ 52 * 2 ^ low < |q - m * 2 ^ p| := by
      have hle := le_abs_self (q - m * 2 ^ p)
      have habs := le_abs_self ((m : ℚ) * 2 ^ p)
      linarith
    exact ⟨by linarith, fun heq _ ↦ by linarith⟩

end Grid

section Signs

theorem toNat_bits_negate (x : Binary64) : x.negate.bits.toNat = x.bits.toNat ^^^ 2 ^ 63 := by
  rw [negate, UInt64.toNat_xor]
  rfl

theorem magnitude_negate (x : Binary64) : x.negate.magnitude = x.magnitude := by
  unfold magnitude
  rw [toNat_bits_negate, Nat.pow_eq, Nat.xor_mod_two_pow]
  simp

theorem isNegative_negate (x : Binary64) : x.negate.isNegative = !x.isNegative := by
  have hlt := x.bits.toNat_lt
  have hhalf : x.negate.bits.toNat / 2 ^ 63 = x.bits.toNat / 2 ^ 63 ^^^ 1 := by
    rw [toNat_bits_negate, Nat.xor_div_two_pow]
    rfl
  have hbit : x.bits.toNat / 2 ^ 63 = 0 ∨ x.bits.toNat / 2 ^ 63 = 1 := by omega
  unfold isNegative
  simp only [Nat.pow_eq]
  rcases hbit with hbit | hbit
  · rw [hbit] at hhalf
    have hone : x.negate.bits.toNat / 2 ^ 63 = 1 := hhalf
    rw [decide_eq_true (by omega), decide_eq_false (by omega)]
    rfl
  · rw [hbit] at hhalf
    have hnone : x.negate.bits.toNat / 2 ^ 63 = 0 := hhalf
    rw [decide_eq_false (by omega), decide_eq_true (by omega)]
    rfl

theorem isNaN_negate (x : Binary64) : x.negate.isNaN = x.isNaN := by
  rw [isNaN, isNaN, magnitude_negate]

theorem isFinite_negate (x : Binary64) : x.negate.isFinite = x.isFinite := by
  rw [isFinite, isFinite, magnitude_negate]

theorem significand_negate (x : Binary64) : x.negate.significand = x.significand := by
  rw [significand, significand, magnitude_negate]

theorem value_negate (x : Binary64) : x.negate.value = -x.value := by
  rw [value, value, isNegative_negate, size_eq_of_magnitude_eq (magnitude_negate x)]
  cases x.isNegative <;> simp

theorem Rounds.negate (h : Rounds q x) : Rounds (-q) x.negate := by
  have hflip (y : Binary64) : |-q - y.value| = |q - y.negate.value| := by
    rw [value_negate, ← abs_neg]
    ring_nf
  have hself : |-q - x.negate.value| = |q - x.value| := by
    rw [value_negate, ← abs_neg]
    ring_nf
  refine ⟨by rw [isNaN_negate, h.number], fun y hy ↦ ?_, fun y hy heq hne ↦ ?_⟩
  · rw [hself, hflip]
    exact h.nearest y.negate (by rwa [isNaN_negate])
  · rw [hself, hflip] at heq
    rw [significand_negate]
    apply h.even y.negate (by rwa [isNaN_negate]) heq
    rw [value_negate] at hne ⊢
    intro hsame
    exact hne (by linarith)

end Signs

section Ends

theorem rounds_zero (hq : 0 ≤ q) (hlt : q ≤ 2 ^ (-1075 : ℤ)) : Rounds q zero := by
  refine ⟨rfl, fun y hy ↦ ?_, fun _ _ _ _ ↦ by decide⟩
  obtain ⟨m, p, hy, -, hp⟩ := y.exists_value_eq
  rw [value_zero, sub_zero, abs_of_nonneg hq, hy]
  by_cases hm : m = 0
  · rw [hm]
    simp [abs_of_nonneg hq]
  · have hone : (1 : ℚ) ≤ |(m : ℚ)| := by exact_mod_cast Int.one_le_abs hm
    have hstep : (2 : ℚ) ^ (-1074 : ℤ) = 2 * 2 ^ (-1075 : ℤ) := by
      rw [← zpow_one_add₀ two_ne_zero]
      rfl
    have hfar : (2 : ℚ) ^ (-1074 : ℤ) ≤ |(m : ℚ) * 2 ^ p| := by
      rw [abs_mul, abs_of_pos (two_zpow_pos p)]
      calc (2 : ℚ) ^ (-1074 : ℤ)
        _ ≤ 2 ^ p := two_zpow_le hp
        _ ≤ |(m : ℚ)| * 2 ^ p := le_mul_of_one_le_left (two_zpow_pos p).le hone
    have htriangle : |(m : ℚ) * 2 ^ p| ≤ |q - m * 2 ^ p| + |q| := by
      rw [abs_sub_comm]
      simpa using abs_add_le ((m : ℚ) * 2 ^ p - q) q
    rw [abs_of_nonneg hq] at htriangle
    linarith

theorem rounds_infinity (hq : 2 ^ (1024 : ℤ) ≤ q) : Rounds q infinity := by
  refine ⟨rfl, fun y hy ↦ ?_, fun _ _ _ _ ↦ by decide⟩
  have hle : y.value ≤ infinity.value := by
    have hsize := size_le_infinity hy
    have habs := le_abs_self y.value
    rw [abs_value] at habs
    linarith
  rw [value_infinity] at hle ⊢
  rw [abs_of_nonneg (by linarith), abs_of_nonneg (by linarith)]
  linarith

end Ends

section Fractions

theorem roundDiv_near {a b : ℕ} (hb : 0 < b) : |(a : ℚ) / b - roundDiv a b| ≤ 1 / 2 ∧
    (|(a : ℚ) / b - roundDiv a b| = 1 / 2 → Even (roundDiv a b)) := by
  have hpos : (0 : ℚ) < b := by exact_mod_cast hb
  have hsplit : (a : ℚ) / b = (a / b : ℕ) + (a % b : ℕ) / b := by
    have hdiv : (a : ℚ) = b * (a / b : ℕ) + (a % b : ℕ) := by exact_mod_cast (Nat.div_add_mod a b).symm
    rw [div_eq_iff hpos.ne', add_mul, div_mul_cancel₀ _ hpos.ne']
    linarith
  have hrest : ((a % b : ℕ) : ℚ) / b < 1 := by
    rw [div_lt_one hpos]
    exact_mod_cast Nat.mod_lt a hb
  have hrest' : 0 ≤ ((a % b : ℕ) : ℚ) / b := by positivity
  have hle : 1 / 2 ≤ ((a % b : ℕ) : ℚ) / b ↔ b ≤ 2 * (a % b) := by
    rw [le_div_iff₀ hpos, div_mul_eq_mul_div, div_le_iff₀ two_pos, one_mul, mul_comm]
    exact_mod_cast Iff.rfl
  have hge : ((a % b : ℕ) : ℚ) / b ≤ 1 / 2 ↔ 2 * (a % b) ≤ b := by
    rw [div_le_iff₀ hpos, div_mul_eq_mul_div, le_div_iff₀ two_pos, one_mul, mul_comm]
    exact_mod_cast Iff.rfl
  unfold roundDiv
  dsimp only
  rw [hsplit]
  generalize ((a % b : ℕ) : ℚ) / b = f at *
  split
  · next hup =>
    simp only [Bool.or_eq_true, Bool.and_eq_true, decide_eq_true_eq, beq_iff_eq] at hup
    have hhalf : 1 / 2 ≤ f := hle.mpr (by omega)
    have hgap : |((a / b : ℕ) : ℚ) + f - (a / b + 1 : ℕ)| = 1 - f := by
      push_cast
      rw [abs_of_nonpos (by linarith)]
      ring
    rw [hgap]
    refine ⟨by linarith, fun htie ↦ ?_⟩
    have hodd : 2 * (a % b) ≤ b := hge.mp (by linarith)
    rw [Nat.even_iff]
    omega
  · next hdown =>
    simp only [Bool.or_eq_true, Bool.and_eq_true, decide_eq_true_eq, beq_iff_eq] at hdown
    have hhalf : f ≤ 1 / 2 := hge.mpr (by omega)
    have hgap : |((a / b : ℕ) : ℚ) + f - (a / b : ℕ)| = f := by
      rw [add_sub_cancel_left, abs_of_nonneg hrest']
    rw [hgap]
    refine ⟨hhalf, fun htie ↦ ?_⟩
    have hodd : b ≤ 2 * (a % b) := hle.mp (by linarith)
    rw [Nat.even_iff]
    omega

theorem shifted_pos {p : ℤ} (hd : 0 < d) : 0 < (shifted n d p).2 := by
  simp only [shifted, Nat.pow_eq]
  positivity

theorem pow_toNat_div {b : ℚ} (hb : b ≠ 0) (p : ℤ) : b ^ p.toNat / b ^ (-p).toNat = b ^ p := by
  rw [← zpow_natCast, ← zpow_natCast, ← zpow_sub₀ hb, Int.toNat_sub_toNat_neg]

theorem shifted_div (n d : ℕ) (p : ℤ) :
    ((shifted n d p).1 : ℚ) / (shifted n d p).2 = n / d * 2 ^ p := by
  simp only [shifted, Nat.pow_eq]
  push_cast
  rw [mul_div_mul_comm, pow_toNat_div two_ne_zero]

def top (n d : ℕ) : ℤ :=
  let guess : ℤ := (n.log2 : ℤ) - d.log2
  if (shifted n d (-guess)).1 < (shifted n d (-guess)).2 then guess - 1 else guess

def low (n d : ℕ) : ℤ := max (top n d - 52) (-1074)

theorem top_spec (hn : n ≠ 0) (hd : 0 < d) :
    (2 : ℚ) ^ top n d ≤ n / d ∧ (n : ℚ) / d < 2 ^ (top n d + 1) := by
  have hdpos : (0 : ℚ) < d := by exact_mod_cast hd
  have hnlow : (2 : ℚ) ^ (n.log2 : ℤ) ≤ n := by exact_mod_cast Nat.log2_self_le hn
  have hnhigh : (n : ℚ) < 2 ^ ((n.log2 : ℤ) + 1) := by exact_mod_cast Nat.lt_log2_self
  have hdlow : (2 : ℚ) ^ (d.log2 : ℤ) ≤ d := by exact_mod_cast Nat.log2_self_le hd.ne'
  have hdhigh : (d : ℚ) < 2 ^ ((d.log2 : ℤ) + 1) := by exact_mod_cast Nat.lt_log2_self
  have hcompare (p : ℤ) :
      (shifted n d (-p)).1 < (shifted n d (-p)).2 ↔ (n : ℚ) / d < 2 ^ p := by
    have hpos : (0 : ℚ) < (shifted n d (-p)).2 := by exact_mod_cast shifted_pos hd
    rw [← Nat.cast_lt (α := ℚ), ← div_lt_one hpos, shifted_div, zpow_neg, ← div_eq_mul_inv,
      div_lt_one (two_zpow_pos p)]
  unfold top
  dsimp only
  split
  · next hbelow =>
    rw [hcompare] at hbelow
    rw [sub_add_cancel]
    refine ⟨?_, hbelow⟩
    rw [le_div_iff₀ hdpos]
    calc (2 : ℚ) ^ ((n.log2 : ℤ) - d.log2 - 1) * d
      _ ≤ 2 ^ ((n.log2 : ℤ) - d.log2 - 1) * 2 ^ ((d.log2 : ℤ) + 1) := by gcongr
      _ = 2 ^ (n.log2 : ℤ) := by
        rw [← zpow_add₀ two_ne_zero]
        ring_nf
      _ ≤ n := hnlow
  · next habove =>
    rw [hcompare, not_lt] at habove
    refine ⟨habove, ?_⟩
    rw [div_lt_iff₀ hdpos]
    calc (n : ℚ)
      _ < 2 ^ ((n.log2 : ℤ) + 1) := hnhigh
      _ = 2 ^ ((n.log2 : ℤ) - d.log2 + 1) * 2 ^ (d.log2 : ℤ) := by
        rw [← zpow_add₀ two_ne_zero]
        ring_nf
      _ ≤ 2 ^ ((n.log2 : ℤ) - d.log2 + 1) * d := by gcongr

theorem ofRatio_eq (hn : n ≠ 0) : ofRatio n d =
    ⟨UInt64.ofNat (min ((low n d + 1074).toNat * 2 ^ 52 +
      roundDiv (shifted n d (-low n d)).1 (shifted n d (-low n d)).2) (2047 * 2 ^ 52))⟩ := by
  rw [ofRatio, if_neg hn]
  rfl

theorem magnitude_ofNat {w : ℕ} (hw : w < 2 ^ 63) :
    (⟨UInt64.ofNat w⟩ : Binary64).magnitude = w := by
  simp only [magnitude, UInt64.toNat_ofNat', Nat.pow_eq]
  omega

theorem isNegative_ofNat {w : ℕ} (hw : w < 2 ^ 63) :
    (⟨UInt64.ofNat w⟩ : Binary64).isNegative = false := by
  simp only [isNegative, UInt64.toNat_ofNat', Nat.pow_eq]
  rw [decide_eq_false]
  omega

/-- A significand put on top of its exponent. One that has been rounded up to 54 bits carries over
into the exponent. -/
theorem value_word {e r : ℕ} (hr : r ≤ 2 ^ 53) (hlead : e = 0 ∨ 2 ^ 52 ≤ r)
    (hword : e * 2 ^ 52 + r ≤ 2047 * 2 ^ 52) :
    (⟨UInt64.ofNat (e * 2 ^ 52 + r)⟩ : Binary64).value = r * 2 ^ ((e : ℤ) - 1074) ∧
      (Even r → Even (⟨UInt64.ofNat (e * 2 ^ 52 + r)⟩ : Binary64).significand) := by
  have hmagnitude := magnitude_ofNat (w := e * 2 ^ 52 + r) (by omega)
  have hpositive := isNegative_ofNat (w := e * 2 ^ 52 + r) (by omega)
  generalize (⟨UInt64.ofNat (e * 2 ^ 52 + r)⟩ : Binary64) = x at hmagnitude hpositive ⊢
  have hfields : x.significand = r ∧ x.power = (e : ℤ) - 1074 ∨
      r = 2 ^ 53 ∧ x.significand = 2 ^ 52 ∧ x.power = (e : ℤ) - 1073 := by
    unfold significand power
    rw [hmagnitude]
    simp only [Nat.pow_eq]
    split <;> omega
  rw [value, hpositive, if_neg Bool.false_ne_true, size]
  rcases hfields with ⟨hsignificand, hpower⟩ | ⟨hr, hsignificand, hpower⟩
  · rw [hsignificand, hpower]
    exact ⟨rfl, id⟩
  · rw [hsignificand, hpower, hr]
    refine ⟨?_, fun _ ↦ by decide⟩
    have hcarry : (e : ℤ) - 1073 = (e : ℤ) - 1074 + 1 := by ring
    rw [hcarry, zpow_add_one₀ two_ne_zero]
    push_cast
    ring

theorem low_spec (hn : n ≠ 0) (hd : 0 < d) :
    (low n d = -1074 ∨ 2 ^ 52 * 2 ^ low n d ≤ (n : ℚ) / d) ∧ (n : ℚ) / d < 2 ^ 53 * 2 ^ low n d := by
  obtain ⟨hbegin, hend⟩ := top_spec hn hd
  have hle : top n d - 52 ≤ low n d := le_max_left _ _
  constructor
  · rcases max_choice (top n d - 52) (-1074) with h | h
    · right
      calc (2 : ℚ) ^ 52 * 2 ^ low n d
        _ = 2 ^ top n d := by
          rw [← zpow_natCast, ← zpow_add₀ two_ne_zero, low, h]
          ring_nf
        _ ≤ n / d := hbegin
    · exact .inl h
  · calc (n : ℚ) / d
      _ < 2 ^ (top n d + 1) := hend
      _ ≤ 2 ^ (53 + low n d) := two_zpow_le (by omega)
      _ = 2 ^ 53 * 2 ^ low n d := by
        rw [zpow_add₀ two_ne_zero]
        norm_cast

/-- Fractions are rounded to the nearest number. -/
theorem rounds_ofRatio (n : ℕ) (hd : 0 < d) : Rounds (n / d) (ofRatio n d) := by
  by_cases hn : n = 0
  · rw [ofRatio, if_pos hn, hn, Nat.cast_zero, zero_div]
    exact rounds_zero le_rfl (two_zpow_pos _).le
  obtain ⟨hlead, hbound⟩ := low_spec hn hd
  obtain ⟨hnear, heven⟩ := roundDiv_near (a := (shifted n d (-low n d)).1)
    (shifted_pos (n := n) (p := -low n d) hd)
  rw [ofRatio_eq hn]
  rw [shifted_div, zpow_neg, ← div_eq_mul_inv] at hnear heven
  generalize roundDiv (shifted n d (-low n d)).1 (shifted n d (-low n d)).2 = r at *
  have hunit := two_zpow_pos (low n d)
  obtain ⟨hbelow, habove⟩ := abs_le.mp hnear
  have hr : r ≤ 2 ^ 53 := by
    rw [← div_lt_iff₀ hunit] at hbound
    have hlt : (r : ℚ) < 2 ^ 53 + 1 := by linarith
    exact Nat.lt_succ_iff.mp (by exact_mod_cast hlt)
  have hword : (low n d + 1074).toNat = 0 ∨ 2 ^ 52 ≤ r := by
    rcases hlead with hlow | hlead
    · left
      rw [hlow]
      rfl
    · right
      rw [← le_div_iff₀ hunit] at hlead
      have hlt : (2 : ℚ) ^ 52 < r + 1 := by linarith
      exact Nat.lt_succ_iff.mp (by exact_mod_cast hlt)
  have hlow : -1074 ≤ low n d := le_max_right _ _
  by_cases hfit : (low n d + 1074).toNat * 2 ^ 52 + r ≤ 2047 * 2 ^ 52
  · rw [min_eq_left hfit]
    obtain ⟨hvalue, hsignificand⟩ := value_word hr hword hfit
    have hplace : ((low n d + 1074).toNat : ℤ) - 1074 = low n d := by omega
    rw [hplace] at hvalue
    refine ⟨?_, fun y hy ↦ ?_, fun y hy heq hne ↦ hsignificand ?_⟩
    · rw [isNaN_eq_false_iff, magnitude_ofNat (by omega)]
      exact hfit
    · obtain ⟨m, p, hmp, hm, hp⟩ := y.exists_value_eq
      rw [hvalue, hmp]
      exact (nearest_on_grid hnear heven hlead hm hp).1
    · obtain ⟨m, p, hmp, hm, hp⟩ := y.exists_value_eq
      rw [hvalue, hmp] at heq hne
      exact (nearest_on_grid hnear heven hlead hm hp).2 heq hne
  · -- The exponent is past all others, so the fraction is past all numbers.
    have hinfinity : (⟨UInt64.ofNat (2047 * 2 ^ 52)⟩ : Binary64) = infinity := by decide
    rw [min_eq_right (by omega), hinfinity]
    have hlead : 2 ^ 52 * 2 ^ low n d ≤ (n : ℚ) / d := hlead.resolve_left (by omega)
    apply rounds_infinity
    calc (2 : ℚ) ^ (1024 : ℤ)
      _ ≤ 2 ^ (52 + low n d) := two_zpow_le (by omega)
      _ = 2 ^ 52 * 2 ^ low n d := by
        rw [zpow_add₀ two_ne_zero]
        norm_cast
      _ ≤ n / d := hlead

end Fractions

section Overflow

theorem value_of_not_isFinite (hx : x.isNaN = false) (h : x.isFinite = false) :
    x.value = infinity.value ∨ x.value = -infinity.value := by
  have hmagnitude : x.magnitude = infinity.magnitude := by
    rw [isNaN_eq_false_iff] at hx
    rw [← Bool.not_eq_true, isFinite_iff] at h
    rw [magnitude_infinity]
    omega
  have hsize : x.size = infinity.value := size_eq_of_magnitude_eq hmagnitude
  rw [value]
  split
  · exact .inr (by rw [hsize])
  · exact .inl hsize

theorem isFinite_of_unit (hx : x.isNaN = false) (hzero : 0 ≤ x.value) (hone : x.value ≤ 1) :
    x.isFinite = true := by
  have hlarge : 1 < infinity.value := by
    rw [value_infinity]
    exact one_lt_zpow₀ one_lt_two (by decide)
  by_contra h
  rcases value_of_not_isFinite hx (by simpa using h) with h | h <;> linarith

/-- The significand of the greatest number is odd, so that half a place above it is too far. -/
theorem significand_of_size_eq (hx : x.isFinite = true) (h : x.size = largest.value) :
    ¬ Even x.significand := by
  have hlt : (x.significand : ℚ) ≤ 2 ^ 53 - 1 := by
    have hle : x.significand ≤ 2 ^ 53 - 1 := Nat.le_sub_one_of_lt x.significand_lt
    have hcast : ((2 ^ 53 - 1 : ℕ) : ℚ) = 2 ^ 53 - 1 := by norm_num
    rw [← hcast]
    exact_mod_cast hle
  have hpower : (2 : ℚ) ^ x.power ≤ 2 ^ (971 : ℤ) := two_zpow_le (power_le hx)
  rw [value_largest, size] at h
  have hsame : (x.significand : ℚ) = 2 ^ 53 - 1 := by
    apply le_antisymm hlt
    have hpos := two_zpow_pos 971
    by_contra hless
    have hsmall : (x.significand : ℚ) * 2 ^ x.power < (2 ^ 53 - 1) * 2 ^ (971 : ℤ) := by
      calc (x.significand : ℚ) * 2 ^ x.power
        _ ≤ x.significand * 2 ^ (971 : ℤ) := mul_le_mul_of_nonneg_left hpower (Nat.cast_nonneg _)
        _ < (2 ^ 53 - 1) * 2 ^ (971 : ℤ) := mul_lt_mul_of_pos_right (not_le.mp hless) hpos
    exact hsmall.ne h
  have hodd : x.significand + 1 = 2 ^ 53 := by
    have hcast : (x.significand : ℚ) + 1 = 2 ^ 53 := by linarith
    exact_mod_cast hcast
  rw [Nat.even_iff]
  omega

theorem isFinite_iff_of_nonneg (h : Rounds q x) (hq : 0 ≤ q) :
    x.isFinite = true ↔ q < 2 ^ (1024 : ℤ) - 2 ^ (970 : ℤ) := by
  have hpos := two_zpow_pos 970
  have hinf : infinity.value = 2 ^ 54 * 2 ^ (970 : ℤ) := by
    rw [value_infinity, ← zpow_natCast, ← zpow_add₀ two_ne_zero]
    rfl
  have hlargest : largest.value = (2 ^ 54 - 2) * 2 ^ (970 : ℤ) := by
    have hstep : (2 : ℚ) ^ (971 : ℤ) = 2 * 2 ^ (970 : ℤ) := by
      rw [← zpow_one_add₀ two_ne_zero]
      rfl
    rw [value_largest, hstep]
    ring
  rw [← value_infinity]
  generalize (2 : ℚ) ^ (970 : ℤ) = u at *
  constructor
  · intro hfinite
    by_contra hle
    rw [not_lt] at hle
    have hsize := size_le_largest hfinite
    have hvalue := le_abs_self x.value
    rw [abs_value] at hvalue
    have hnear := h.nearest infinity rfl
    have hself : |q - x.value| = q - x.value := abs_of_nonneg (by linarith)
    rw [hself] at hnear
    have hmiddle : q < infinity.value := by
      by_contra hbeyond
      rw [abs_of_nonneg (by linarith)] at hnear
      linarith
    have hgap : |q - infinity.value| = infinity.value - q := by
      rw [abs_sub_comm]
      exact abs_of_nonneg (by linarith)
    rw [hgap] at hnear
    have hsame : x.value = largest.value := by linarith
    have heven := h.even infinity rfl (by rw [hgap, hself]; linarith) (by linarith)
    exact significand_of_size_eq hfinite (by linarith) heven
  · intro hlt
    by_contra hfinite
    have hnear := h.nearest largest rfl
    have hle : |q - largest.value| < infinity.value - q := by
      rw [abs_lt]
      constructor <;> linarith
    rcases value_of_not_isFinite h.number (by simpa using hfinite) with hvalue | hvalue
    · rw [hvalue, abs_sub_comm, abs_of_nonneg (by linarith)] at hnear
      linarith
    · rw [hvalue, sub_neg_eq_add, abs_of_nonneg (by linarith)] at hnear
      linarith

theorem Rounds.isFinite_iff (h : Rounds q x) :
    x.isFinite = true ↔ |q| < 2 ^ (1024 : ℤ) - 2 ^ (970 : ℤ) := by
  rcases le_total 0 q with hq | hq
  · rw [abs_of_nonneg hq]
    exact isFinite_iff_of_nonneg h hq
  · rw [abs_of_nonpos hq, ← isFinite_negate]
    exact isFinite_iff_of_nonneg h.negate (neg_nonneg.mpr hq)

end Overflow

end Telemetry.Binary64
