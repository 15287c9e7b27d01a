import Telemetry.Crypto.Residue
import Telemetry.Crypto.Sha512

namespace Telemetry.Crypto.Edwards

open Residue

def prime : Nat := 0x7FFFFFFFFFFFFFFFFFFFFFFFFFFFFFFFFFFFFFFFFFFFFFFFFFFFFFFFFFFFFFED

/-- The curve holds the points with `y * y - x * x = 1 + coefficient * x * x * y * y`. -/
def coefficient : Nat := sub prime 0 (div prime 121665 121666)

/-- The base point: four fifths, and the even one of the two places at this height. -/
def base : Nat × Nat :=
  (0x216936D3CD6E53FEC0A4E231FDD6DC5C692CC7609525A7B2C9562D608F25D51A,
    0x6666666666666666666666666666666666666666666666666666666666666658)

def add (p q : Nat × Nat) : Nat × Nat :=
  let t := coefficient * (p.1 * q.1 % prime) % prime * (p.2 * q.2 % prime) % prime
  (div prime (p.1 * q.2 + q.1 * p.2) (1 + t), div prime (p.2 * q.2 + p.1 * q.1) (sub prime 1 t))

def multiply (n : Nat) (p : Nat × Nat) : Nat × Nat :=
  if n = 0 then (0, 1)
  else
    let half := multiply (n / 2) p
    let even := add half half
    if n % 2 = 0 then even else add even p
termination_by n
decreasing_by omega

def number (bs : List UInt8) : Nat :=
  bs.foldr (fun b n ↦ 256 * n + b.toNat) 0

def encode (p : Nat × Nat) : List UInt8 :=
  let n := p.2 + p.1 % 2 * Nat.pow 2 255
  (List.range 32).map fun i ↦ UInt8.ofNat (n >>> (8 * i))

/-- The secret number of a seed: half of its digest, with the highest bit below 2^255 set and the
lowest three cleared. -/
def secret (seed : List UInt8) : Nat :=
  let n := number ((Sha512.digest seed).take 32)
  Nat.pow 2 254 + n % Nat.pow 2 254 / 8 * 8

def publicKey (seed : List UInt8) : List UInt8 := encode (multiply (secret seed) base)

end Telemetry.Crypto.Edwards
