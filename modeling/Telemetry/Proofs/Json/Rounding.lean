import Mathlib
import Telemetry.Json.Rounding
import Telemetry.Proofs.Binary64.Scaling

namespace Telemetry.Json.Rounding

variable {cs whole fraction : List Char} {e : ℤ}

theorem accumulate_value (ds : List Char) (h : Digits.value (ds ++ cs) < 2 ^ 64) :
    accumulate (Digits.value ds) cs = (Digits.value (ds ++ cs), []) := by
  induction cs generalizing ds with
  | nil => rw [List.append_nil, accumulate]
  | cons c cs ih =>
    rw [List.append_cons] at h ⊢
    have hmore : 10 * Digits.value ds + (c.toNat - 48) < Nat.pow 2 64 := by
      rw [← Digits.value_concat]
      exact (Digits.value_le_append _ cs).trans_lt h
    rw [accumulate, if_pos hmore, ← Digits.value_concat, ih _ h]

theorem stepwise_round (h : Digits.value (whole ++ fraction) < 2 ^ 64) :
    stepwise.round whole fraction e =
      (Binary64.ofNat (Digits.value (whole ++ fraction))).scale (e - fraction.length) := by
  have hwhole := accumulate_value [] ((Digits.value_le_append whole fraction).trans_lt h)
  have hfraction := accumulate_value whole h
  rw [List.nil_append] at hwhole
  have hzero : accumulate 0 whole = (Digits.value whole, []) := hwhole
  unfold stepwise
  simp [hzero, hfraction]

/-- Both read a number with few digits and a small exponent the same. -/
theorem stepwise_eq_nearest (hdigits : Digits.value (whole ++ fraction) < 2 ^ 53)
    (hscale : (e - fraction.length).natAbs ≤ 22) :
    stepwise.round whole fraction e = nearest.round whole fraction e := by
  rw [stepwise_round (hdigits.trans (by decide))]
  show _ = Binary64.ofDecimal _ _
  exact Binary64.scale_eq_ofDecimal hdigits hscale

-- Beyond these the two part, here at the end of the range.
example : (stepwise.round "17976931348623158".toList [] 292).isFinite = false ∧
    (nearest.round "17976931348623158".toList [] 292).isFinite = true := by
  rw [stepwise_round (by decide), Binary64.scale]
  decide +kernel

end Telemetry.Json.Rounding
