import Telemetry.Binary64.Basic
import Telemetry.Text.Digits

namespace Telemetry.Json

/-- What a reader makes of the digits before and after the point and the exponent of a number.
Numbers that are out of range become infinite. Readers differ in the last place of long numbers. -/
class Rounding where
  round : (whole fraction : List Char) → (exponent : Int) → Binary64

namespace Rounding

/-- Rounding once. A program reads this way if it refuses 1.79769313486231581e308. -/
instance nearest : Rounding where
  round whole fraction exponent :=
    .ofDecimal (Digits.value (whole ++ fraction)) (exponent - fraction.length)

/-- What digits make behind those of `n` as long as that fits 64 bits, and the digits from the first
one on with which it does not. -/
def accumulate : Nat → List Char → Nat × List Char
  | n, [] => (n, [])
  | n, c :: cs =>
    let more := 10 * n + (c.toNat - 48)
    if more < Nat.pow 2 64 then accumulate more cs else (n, c :: cs)

/-- Rounding at every step: the first digits make an integer of 64 bits, which is scaled in floating
point. The digits that are left count in the exponent only. -/
@[reducible] def stepwise : Rounding where
  round whole fraction exponent :=
    let (n, left) := accumulate 0 whole
    let (m, unread) := accumulate n fraction
    (Binary64.ofNat m).scale (exponent + left.length + unread.length - fraction.length)

end Rounding

end Telemetry.Json
