namespace Telemetry.Hex

def digit? (c : Char) : Option Nat :=
  if '0' ≤ c ∧ c ≤ '9' then some (c.toNat - 48)
  else if 'a' ≤ c ∧ c ≤ 'f' then some (c.toNat - 87)
  else if 'A' ≤ c ∧ c ≤ 'F' then some (c.toNat - 55)
  else none

def lowerDigit (n : Nat) : Char :=
  if n < 10 then Char.ofNat (48 + n) else Char.ofNat (87 + n)

def upperDigit (n : Nat) : Char :=
  if n < 10 then Char.ofNat (48 + n) else Char.ofNat (55 + n)

def value? (cs : List Char) : Option Nat :=
  if cs.isEmpty then none
  else cs.foldlM (fun n c ↦ (digit? c).map (16 * n + ·)) 0

def fixed : Nat → Nat → List Char
  | 0, _ => []
  | width + 1, n => fixed width (n / 16) ++ [lowerDigit (n % 16)]

def digits (n : Nat) : List Char :=
  if n < 16 then [lowerDigit n] else digits (n / 16) ++ [lowerDigit (n % 16)]

def bytes? : List Char → Option (List UInt8)
  | [] => some []
  | a :: b :: rest => do
    let high ← digit? a
    let low ← digit? b
    let more ← bytes? rest
    return UInt8.ofNat (16 * high + low) :: more
  | [_] => none

def ofBytes (bs : List UInt8) : String :=
  String.ofList (bs.flatMap fun b ↦ fixed 2 b.toNat)

end Telemetry.Hex
