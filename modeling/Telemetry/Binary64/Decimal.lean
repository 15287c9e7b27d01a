import Telemetry.Binary64.Basic
import Telemetry.Text.Digits

namespace Telemetry.Binary64

def splitSign : List Char → Bool × List Char
  | '-' :: rest => (true, rest)
  | '+' :: rest => (false, rest)
  | cs => (false, cs)

def exponentPart? : List Char → Option Int
  | [] => some 0
  | c :: rest =>
    if c = 'e' || c = 'E' then
      let (negative, ds) := splitSign rest
      if ds.isEmpty || !ds.all Digits.isDigit then none
      else some (if negative then -(Digits.value ds : Int) else Digits.value ds)
    else none

def unsignedDecimal? (cs : List Char) : Option Binary64 :=
  let whole := cs.takeWhile Digits.isDigit
  let rest := cs.dropWhile Digits.isDigit
  let (fraction, rest) := match rest with
    | '.' :: more => (more.takeWhile Digits.isDigit, more.dropWhile Digits.isDigit)
    | _ => ([], rest)
  if whole.isEmpty && fraction.isEmpty then none
  else (exponentPart? rest).map fun e ↦
    ofDecimal (Digits.value (whole ++ fraction)) (e - fraction.length)

def named? (cs : List Char) : Option Binary64 :=
  match String.ofList (cs.map Char.toLower) with
  | "inf" => some infinity
  | "infinity" => some infinity
  | "nan" => some ⟨0x7FF8000000000000⟩
  | _ => none

def parse? (s : String) : Option Binary64 :=
  let (negative, cs) := splitSign s.toList
  (unsignedDecimal? cs <|> named? cs).map fun x ↦ if negative then x.negate else x

def leadingExponent (n d : Nat) : Int :=
  if d ≤ n then (Nat.toDigits 10 (n / d)).length - 1
  else
    let k := (Nat.toDigits 10 (d / n)).length
    if d = n * Nat.pow 10 (k - 1) then -((k : Int) - 1) else -(k : Int)

/-- What reads back as `x`: the bounds of the interval of decimals that round to it, in quarters
of its last place, and whether the bounds belong to it. -/
structure Interval where
  low : Nat
  middle : Nat
  high : Nat
  closed : Bool

def interval (x : Binary64) : Interval :=
  let m := x.significand
  let near := m == Nat.pow 2 52 && Nat.pow 2 53 ≤ x.magnitude
  ⟨if near then 4 * m - 1 else 4 * m - 2, 4 * m, 4 * m + 2, m % 2 == 0⟩

def Interval.contains (i : Interval) (n d : Nat) : Bool :=
  if i.closed then i.low * d ≤ n && n ≤ i.high * d else i.low * d < n && n < i.high * d

def nearestOnGrid (x : Binary64) (e : Int) : Option Nat :=
  let i := x.interval
  let p := x.power - 2
  let d := Nat.pow 10 (-e).toNat * Nat.pow 2 p.toNat
  let unit := Nat.pow 10 e.toNat * Nat.pow 2 (-p).toNat
  let below := i.middle * d / unit
  let fits k := i.contains (k * unit) d
  let gap k := if k * unit ≤ i.middle * d then i.middle * d - k * unit
    else k * unit - i.middle * d
  match fits below, fits (below + 1) with
  | true, true =>
    if gap below < gap (below + 1) || (gap below == gap (below + 1) && below % 2 == 0)
    then some below else some (below + 1)
  | true, false => some below
  | false, true => some (below + 1)
  | false, false => none

def searchGrids (x : Binary64) (top : Int) : List Nat → Nat × Int
  | [] => (0, 0)
  | k :: more =>
    match x.nearestOnGrid (top - k) with
    | some n => (n, top - k)
    | none => searchGrids x top more

def shortest (x : Binary64) : Nat × Int :=
  if x.significand = 0 then (0, 0)
  else
    let (n, d) := shifted x.significand 1 x.power
    searchGrids x (leadingExponent n d) (List.range 17)

/-- How a finite number is laid out: the least and the greatest place of the leading digit for
which the number is written without an exponent. -/
structure Layout where
  least : Int
  most : Int

def positional (digits : List Char) (lead : Int) : List Char :=
  if lead < 0 then ['0', '.'] ++ List.replicate ((-lead).toNat - 1) '0' ++ digits
  else
    let whole := digits.take (lead.toNat + 1)
    let fraction := digits.drop (lead.toNat + 1)
    whole ++ List.replicate (lead.toNat + 1 - whole.length) '0' ++
      ('.' :: if fraction.isEmpty then ['0'] else fraction)

def scientific (digits : List Char) (lead : Int) : List Char :=
  let mantissa := match digits with
    | d :: e :: more => d :: '.' :: e :: more
    | ds => ds
  mantissa ++ ['e', if lead < 0 then '-' else '+'] ++ Digits.ofNat lead.natAbs

def render (l : Layout) (x : Binary64) : String :=
  let (n, e) := x.shortest
  let kept := Digits.withoutTrailingZeros (Digits.ofNat n)
  let digits := if kept.isEmpty then ['0'] else kept
  let lead := e + (Digits.ofNat n).length - 1
  let body := if l.least ≤ lead && lead ≤ l.most then positional digits lead
    else scientific digits lead
  String.ofList (if x.isNegative then '-' :: body else body)

end Telemetry.Binary64
