import Telemetry.Text.ComposingTable

namespace Telemetry.Text

section Hangul

def syllableParts? (n : Nat) : Option (List Nat) :=
  if 0xAC00 ≤ n && n ≤ 0xD7A3 then
    let k := n - 0xAC00
    let trailing := if k % 28 = 0 then [] else [0x11A7 + k % 28]
    some ([0x1100 + k / 588, 0x1161 + k % 588 / 28] ++ trailing)
  else none

def syllable? (a b : Nat) : Option Nat :=
  if 0x1100 ≤ a && a ≤ 0x1112 && 0x1161 ≤ b && b ≤ 0x1175 then
    some (0xAC00 + (a - 0x1100) * 588 + (b - 0x1161) * 28)
  else if 0xAC00 ≤ a && a ≤ 0xD7A3 && (a - 0xAC00) % 28 = 0 && 0x11A8 ≤ b && b ≤ 0x11C2 then
    some (a + (b - 0x11A7))
  else none

end Hangul

def combiningClass (c : Char) : Nat :=
  ((combiningRuns.find? (·.covers c.toNat)).bind (·.target)).bind (·.head?) |>.getD 0

def parts (c : Char) : List Char :=
  match syllableParts? c.toNat with
  | some codes => codes.map Char.ofNat
  | none => match (compositeRuns.find? (·.covers c.toNat)).bind (·.target) with
    | some codes => codes.map Char.ofNat
    | none => [c]

def composite? (a b : Char) : Option Char :=
  match syllable? a.toNat b.toNat with
  | some n => some (Char.ofNat n)
  | none => (compositeRuns.find? (·.target == some [a.toNat, b.toNat])).map (Char.ofNat ·.first)

/-- Characters with nothing composed left in them: no parts of parts of parts are composed. -/
def decompose (cs : List Char) : List Char :=
  ((cs.flatMap parts).flatMap parts).flatMap parts

def insertMark (c : Char) : List Char → List Char
  | [] => [c]
  | d :: ds =>
    if combiningClass d = 0 || combiningClass c ≤ combiningClass d then c :: d :: ds
    else d :: insertMark c ds

def orderMarks : List Char → List Char
  | [] => []
  | c :: cs => if combiningClass c = 0 then c :: orderMarks cs else insertMark c (orderMarks cs)

/-- What becomes of a letter and what follows it, where `held` are the marks that stay apart from
it. A character composes with the letter unless one of the same class stands between them. -/
def composeOn (letter : Char) (held : List Char) : List Char → List Char
  | [] => letter :: held
  | c :: cs =>
    let free := held.getLast?.all (combiningClass · < combiningClass c)
    match if free then composite? letter c else none with
    | some d => composeOn d held cs
    | none =>
      if combiningClass c = 0 then letter :: held ++ composeOn c [] cs
      else composeOn letter (held ++ [c]) cs

def compose : List Char → List Char
  | [] => []
  | c :: cs => if combiningClass c = 0 then composeOn c [] cs else c :: compose cs

def composed (cs : List Char) : List Char :=
  compose (orderMarks (decompose cs))

end Telemetry.Text
