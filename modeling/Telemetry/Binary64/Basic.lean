namespace Telemetry

structure Binary64 where
  bits : UInt64
  deriving DecidableEq, Inhabited

namespace Binary64

def zero : Binary64 := ⟨0⟩
def one : Binary64 := ⟨0x3FF0000000000000⟩
def infinity : Binary64 := ⟨0x7FF0000000000000⟩

def magnitude (x : Binary64) : Nat := x.bits.toNat % Nat.pow 2 63

def isNegative (x : Binary64) : Bool := Nat.pow 2 63 ≤ x.bits.toNat

def isNaN (x : Binary64) : Bool := infinity.magnitude < x.magnitude

def isFinite (x : Binary64) : Bool := x.magnitude < infinity.magnitude

def negate (x : Binary64) : Binary64 := ⟨x.bits ^^^ 0x8000000000000000⟩

def rank (x : Binary64) : Int := if x.isNegative then -(x.magnitude : Int) else x.magnitude

def lt (x y : Binary64) : Bool := !x.isNaN && !y.isNaN && x.rank < y.rank

/-- The nearest number in the closed range from `low` to `high`; a NaN stays. -/
def clamp (x low high : Binary64) : Binary64 :=
  let y := if x.lt low then low else x
  if high.lt y then high else y

def significand (x : Binary64) : Nat :=
  if x.magnitude < Nat.pow 2 52 then x.magnitude else x.magnitude % Nat.pow 2 52 + Nat.pow 2 52

def power (x : Binary64) : Int :=
  if x.magnitude < Nat.pow 2 52 then -1074 else (x.magnitude / Nat.pow 2 52 : Nat) - 1075

/-- A fraction `n / d` rounded to the nearest integer, ties to even. -/
def roundDiv (n d : Nat) : Nat :=
  let q := n / d
  let r := n % d
  if d < 2 * r || (2 * r == d && q % 2 == 1) then q + 1 else q

def shifted (n d : Nat) (p : Int) : Nat × Nat :=
  (n * Nat.pow 2 p.toNat, d * Nat.pow 2 (-p).toNat)

def ofRatio (n d : Nat) : Binary64 :=
  if n = 0 then zero
  else
    let guess : Int := (n.log2 : Int) - d.log2
    let (a, b) := shifted n d (-guess)
    let top := if a < b then guess - 1 else guess
    let low := max (top - 52) (-1074)
    let (a, b) := shifted n d (-low)
    let word := (low + 1074).toNat * Nat.pow 2 52 + roundDiv a b
    ⟨UInt64.ofNat (min word infinity.magnitude)⟩

def ofNat (n : Nat) : Binary64 := ofRatio n 1

def ofInt (n : Int) : Binary64 :=
  if n < 0 then (ofNat n.natAbs).negate else ofNat n.natAbs

def mul (x y : Binary64) : Binary64 :=
  let (n, d) := shifted (x.significand * y.significand) 1 (x.power + y.power)
  ofRatio n d

def div (x y : Binary64) : Binary64 :=
  let (n, d) := shifted x.significand y.significand (x.power - y.power)
  ofRatio n d

def floor (x : Binary64) : Nat :=
  let (n, d) := shifted x.significand 1 x.power
  n / d

def tenTo (n : Nat) : Binary64 := ofNat (Nat.pow 10 n)

/-- `x * 10 ^ exponent` as floating point arithmetic has it, which is not always the nearest number.
Where a power of ten is beyond all numbers, the product is infinite and the quotient takes steps. -/
def scale (x : Binary64) (exponent : Int) : Binary64 :=
  if exponent.natAbs ≤ 308 then
    if 0 ≤ exponent then x.mul (tenTo exponent.natAbs) else x.div (tenTo exponent.natAbs)
  else if x = zero then x
  else if 0 ≤ exponent then infinity
  else (x.div (tenTo 308)).scale (exponent + 308)
termination_by exponent.natAbs
decreasing_by omega

/-- The number nearest to `digits * 10 ^ exponent`, without computing powers that decide nothing. -/
def ofDecimal (digits : Nat) (exponent : Int) : Binary64 :=
  let top := exponent + (Nat.toDigits 10 digits).length
  if digits = 0 || top < -330 then zero
  else if 310 < top then infinity
  else ofRatio (digits * Nat.pow 10 exponent.toNat) (Nat.pow 10 (-exponent).toNat)

end Binary64

end Telemetry
