import Telemetry.Crypto.Residue

namespace Telemetry.Crypto

abbrev CurvePoint := Option (Nat × Nat)

/-- The curve of the points with `y * y = x * x * x - 3 * x + b`, whose last term takes no part in
the addition of points. -/
structure Curve where
  prime : Nat
  order : Nat
  base : Nat × Nat
  size : Nat

namespace Curve

open Residue

def add (c : Curve) : CurvePoint → CurvePoint → CurvePoint
  | none, q => q
  | p, none => p
  | some (x, y), some (u, v) =>
    let along (slope : Nat) : CurvePoint :=
      let w := sub c.prime (sub c.prime (slope * slope) x) u
      some (w, sub c.prime (slope * sub c.prime x w) y)
    if x ≠ u then along (div c.prime (sub c.prime v y) (sub c.prime u x))
    else if (y + v) % c.prime = 0 then none
    else along (div c.prime (sub c.prime (3 * x * x) 3) (2 * y))

def multiply (c : Curve) (n : Nat) (p : CurvePoint) : CurvePoint :=
  if n = 0 then none
  else
    let half := c.multiply (n / 2) p
    let even := c.add half half
    if n % 2 = 0 then even else c.add even p
termination_by n
decreasing_by omega

def coordinate (c : Curve) (n : Nat) : List UInt8 :=
  (List.range c.size).reverse.map fun i ↦ UInt8.ofNat (n >>> (8 * i))

def encode (c : Curve) (x y : Nat) : List UInt8 := 4 :: c.coordinate x ++ c.coordinate y

def public? (c : Curve) (secret : Nat) : Option (List UInt8) :=
  if 0 < secret && secret < c.order then
    (c.multiply secret (some c.base)).map fun p ↦ c.encode p.1 p.2
  else none

def p256 : Curve where
  prime := 0xFFFFFFFF00000001000000000000000000000000FFFFFFFFFFFFFFFFFFFFFFFF
  order := 0xFFFFFFFF00000000FFFFFFFFFFFFFFFFBCE6FAADA7179E84F3B9CAC2FC632551
  base := (0x6B17D1F2E12C4247F8BCE6E563A440F277037D812DEB33A0F4A13945D898C296,
    0x4FE342E2FE1A7F9B8EE7EB4A7C0F9E162BCE33576B315ECECBB6406837BF51F5)
  size := 32

def p384 : Curve where
  prime := (1 <<< 384) - (1 <<< 128) - (1 <<< 96) + (1 <<< 32) - 1
  order := (0xFFFFFFFFFFFFFFFFFFFFFFFFFFFFFFFFFFFFFFFFFFFFFFFF <<< 192) +
    0xC7634D81F4372DDF581A0DB248B0A77AECEC196ACCC52973
  base := ((0xAA87CA22BE8B05378EB1C71EF320AD746E1D3B628BA79B98 <<< 192) +
      0x59F741E082542A385502F25DBF55296C3A545E3872760AB7,
    (0x3617DE4A96262C6F5D9E98BF9292DC29F8F41DBD289A147C <<< 192) +
      0xE9DA3113B5F0B8C00A60B1CE1D7E819D7A431D7C90EA0E5F)
  size := 48

end Curve

end Telemetry.Crypto
