import Telemetry.Text.Digits

namespace Telemetry

structure Duration where
  nanos : Nat
  deriving DecidableEq, Inhabited

namespace Duration

def ofMillis (n : Nat) : Duration := ⟨n * 1000000⟩

def ofSeconds (n : Nat) : Duration := ⟨n * 1000000000⟩

def zero : Duration := ⟨0⟩

def millis (d : Duration) : Nat := d.nanos / 1000000

/-- `n` in a unit of `10 ^ places`, without zeros at the end of the fraction. -/
def inUnit (n places : Nat) (unit : String) : String :=
  let fraction := Digits.withoutTrailingZeros (Digits.fixed places (n % Nat.pow 10 places))
  (n / Nat.pow 10 places).repr ++
    (if fraction.isEmpty then "" else "." ++ String.ofList fraction) ++
    unit

def text (d : Duration) : String :=
  if 1000000000 ≤ d.nanos then inUnit d.nanos 9 "s"
  else if 1000000 ≤ d.nanos then inUnit d.nanos 6 "ms"
  else if 1000 ≤ d.nanos then inUnit d.nanos 3 "µs"
  else inUnit d.nanos 0 "ns"

end Duration

end Telemetry
