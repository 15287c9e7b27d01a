namespace Telemetry.Crypto.Rsa

/-- A private key: the modulus, the exponents and the two primes, the private exponent reduced for
each of them, and the inverse of the second prime for the first one. -/
structure Key where
  modulus : Nat
  exponent : Nat
  secret : Nat
  first : Nat
  second : Nat
  firstExponent : Nat
  secondExponent : Nat
  inverse : Nat
  deriving DecidableEq

def size (n : Nat) : Nat := if n = 0 then 0 else n.log2 + 1

def isOdd (n : Nat) : Bool := n % 2 == 1

namespace Key

def half (k : Key) : Nat := (size k.modulus + 1) / 2

def isPublicSound (k : Key) : Bool :=
  isOdd k.modulus && 2040 < size k.modulus && size k.modulus ≤ 4096 &&
    isOdd k.exponent && 65537 ≤ k.exponent && size k.exponent ≤ 33

def isFactorSound (k : Key) (factor exponent : Nat) : Bool :=
  isOdd factor && size factor == k.half && size factor % 512 == 0 &&
    isOdd exponent && exponent < factor

/-- Whether the parts hold together, as far as that can be told without finding primes. -/
def isSound (k : Key) : Bool :=
  k.isPublicSound && k.isFactorSound k.first k.firstExponent &&
    k.isFactorSound k.second k.secondExponent && k.first * k.second % k.modulus == 0 &&
    isOdd k.secret && k.half < size k.secret && k.secret < k.modulus &&
    k.inverse < k.first && k.inverse * k.second % k.first == 1

end Key

end Telemetry.Crypto.Rsa
