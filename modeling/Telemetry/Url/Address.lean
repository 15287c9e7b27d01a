import Telemetry.Text.Hex
import Telemetry.Text.Digits
import Telemetry.Text.Split

namespace Telemetry.Url

namespace Ipv4

def number? (cs : List Char) : Option Nat :=
  match cs with
  | [] => none
  | '0' :: 'x' :: ds => hex? ds
  | '0' :: 'X' :: ds => hex? ds
  | '0' :: d :: ds =>
    if (d :: ds).all fun c ↦ '0' ≤ c && c ≤ '7' then
      some ((d :: ds).foldl (fun n c ↦ 8 * n + (c.toNat - 48)) 0)
    else none
  | _ => if cs.all Digits.isDigit then some (Digits.value cs) else none
where
  hex? (ds : List Char) : Option Nat :=
    if ds.isEmpty then some 0 else Hex.value? ds

def endsInNumber (host : List Char) : Bool :=
  let last := match (Text.splitOn '.' host).reverse with
    | [] :: last :: _ => last
    | [[]] => []
    | last :: _ => last
    | [] => []
  (!last.isEmpty && last.all Digits.isDigit) || (number? last).isSome

/-- The address that the parts give: each but the last one is a byte, the last one is the rest. -/
def ofParts : List Nat → Option Nat
  | [] => none
  | [n] => if n < 0x100000000 then some n else none
  | [a, n] => if a < 256 && n < 0x1000000 then some (a * 0x1000000 + n) else none
  | [a, b, n] =>
    if a < 256 && b < 256 && n < 0x10000 then some ((a * 256 + b) * 0x10000 + n) else none
  | [a, b, c, n] =>
    if a < 256 && b < 256 && c < 256 && n < 256 then some (((a * 256 + b) * 256 + c) * 256 + n)
    else none
  | _ => none

def parse? (host : List Char) : Option Nat := do
  let parts := Text.splitOn '.' host
  let parts := match parts.reverse with
    | [] :: front => front.reverse
    | _ => parts
  ofParts (← parts.mapM number?)

def render (address : Nat) : List Char :=
  let byte (shift : Nat) : List Char := Digits.ofNat (address >>> shift % 256)
  byte 24 ++ '.' :: byte 16 ++ '.' :: byte 8 ++ '.' :: byte 0

end Ipv4

namespace Ipv6

def byte? (cs : List Char) : Option Nat :=
  match cs with
  | [] => none
  | ['0'] => some 0
  | '0' :: _ => none
  | _ => if cs.all Digits.isDigit && Digits.value cs < 256 then some (Digits.value cs) else none

def quad? (cs : List Char) : Option (List Nat) := do
  match ← (Text.splitOn '.' cs).mapM byte? with
  | [a, b, c, d] => return [a * 256 + b, c * 256 + d]
  | _ => none

def words? (tail : Bool) : List (List Char) → Option (List Nat)
  | [] => some []
  | part :: parts =>
    if parts.isEmpty && tail && part.contains '.' then quad? part
    else do
      let w ← if part.length ≤ 4 then Hex.value? part else none
      return w :: (← words? tail parts)

def wordsOf (tail : Bool) (cs : List Char) : Option (List Nat) :=
  if cs.isEmpty then some [] else words? tail (Text.splitOn ':' cs)

def splitAtGap : List Char → Option (List Char × List Char)
  | ':' :: ':' :: rest => some ([], rest)
  | c :: rest => (splitAtGap rest).map fun (a, b) ↦ (c :: a, b)
  | [] => none

/-- The eight words of an address. A double colon stands for one zero at least. -/
def parse? (cs : List Char) : Option (List Nat) := do
  match splitAtGap cs with
  | some (front, back) =>
    let a ← wordsOf false front
    let b ← wordsOf true back
    if a.length + b.length < 8 then
      return a ++ List.replicate (8 - a.length - b.length) 0 ++ b
    else none
  | none =>
    let a ← wordsOf true cs
    if a.length = 8 then return a else none

def zeros : List Nat → Nat
  | 0 :: ws => zeros ws + 1
  | _ => 0

def longestRun : List Nat → Nat
  | [] => 0
  | w :: ws => max (zeros (w :: ws)) (longestRun ws)

def join : List Nat → List Char
  | [] => []
  | [w] => Hex.digits w
  | w :: ws => Hex.digits w ++ ':' :: join ws

def compress (run : Nat) : List Nat → List Nat → List Char
  | done, [] => join done.reverse
  | done, w :: ws =>
    if zeros (w :: ws) = run then
      join done.reverse ++ [':', ':'] ++ join ((w :: ws).drop run)
    else compress run (w :: done) ws

/-- The shortest text of an address: the first longest run of zeros is left out, if it is longer
than one. -/
def render (ws : List Nat) : List Char :=
  if longestRun ws < 2 then join ws else compress (longestRun ws) [] ws

end Ipv6

end Telemetry.Url
