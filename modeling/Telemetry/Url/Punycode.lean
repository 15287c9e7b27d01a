namespace Telemetry.Url.Punycode

def digitChar (d : Nat) : Char :=
  if d < 26 then Char.ofNat (97 + d) else Char.ofNat (22 + d)

def digit? (c : Char) : Option Nat :=
  if 'a' ≤ c ∧ c ≤ 'z' then some (c.toNat - 97)
  else if 'A' ≤ c ∧ c ≤ 'Z' then some (c.toNat - 65)
  else if '0' ≤ c ∧ c ≤ '9' then some (c.toNat - 22)
  else none

def threshold (bias k : Nat) : Nat :=
  max 1 (min 26 (k - bias))

theorem threshold_pos (bias k : Nat) : 0 < threshold bias k := by
  unfold threshold
  omega

def shrink (delta k : Nat) : Nat :=
  if 455 < delta then shrink (delta / 35) (k + 36) else k + 36 * delta / (delta + 38)
termination_by delta
decreasing_by omega

/-- The bias after an insertion, the first or a later one, into a text of `size` characters. -/
def adapt (delta size : Nat) (first : Bool) : Nat :=
  let d := if first then delta / 700 else delta / 2
  shrink (d + d / size) 0

def number (bias k q : Nat) : List Char :=
  let t := threshold bias k
  if q < t then [digitChar q]
  else digitChar (t + (q - t) % (36 - t)) :: number bias (k + 36) ((q - t) / (36 - t))
termination_by q
decreasing_by
  have := Nat.div_le_self (q - threshold bias k) (36 - threshold bias k)
  have := threshold_pos bias k
  omega

structure Encoder where
  next : Nat := 128
  delta : Nat := 0
  bias : Nat := 72
  handled : Nat
  output : List Char

def Encoder.insert (code basic : Nat) (s : Encoder) (c : Char) : Encoder :=
  if c.toNat < code then { s with delta := s.delta + 1 }
  else if c.toNat = code then
    { s with
      delta := 0
      bias := adapt s.delta (s.handled + 1) (s.handled == basic)
      handled := s.handled + 1
      output := s.output ++ number s.bias 36 s.delta }
  else s

def Encoder.insertAll (cs : List Char) (basic : Nat) (s : Encoder) (code : Nat) : Encoder :=
  let s := { s with delta := s.delta + (code - s.next) * (s.handled + 1), next := code }
  let s := cs.foldl (Encoder.insert code basic) s
  { s with delta := s.delta + 1, next := code + 1 }

def codes (cs : List Char) : List Nat :=
  (((cs.map Char.toNat).filter (128 ≤ ·)).mergeSort).eraseDups

def encode (cs : List Char) : List Char :=
  let ascii := cs.filter (·.toNat < 128)
  let start := if ascii.isEmpty then [] else ascii ++ ['-']
  ((codes cs).foldl (Encoder.insertAll cs ascii.length)
    { handled := ascii.length, output := start }).output

def number? (bias k weight sum : Nat) : List Char → Option (Nat × List Char)
  | [] => none
  | c :: cs => do
    let d ← digit? c
    let sum := sum + d * weight
    let t := threshold bias k
    if Nat.pow 2 32 ≤ sum then none
    else if d < t then some (sum, cs)
    else number? bias (k + 36) (weight * (36 - t)) sum cs

def insertions : Nat → Nat → Nat → Nat → List Char → List Char → Option (List Char)
  | _, _, _, _, text, [] => some text
  | 0, _, _, _, _, _ => none
  | fuel + 1, code, place, bias, text, input => do
    let (delta, rest) ← number? bias 36 1 0 input
    let size := text.length + 1
    let total := place + delta
    let code := code + total / size
    if code.isValidChar then
      insertions fuel code (total % size + 1) (adapt delta size (place == 0))
        (text.take (total % size) ++ Char.ofNat code :: text.drop (total % size)) rest
    else none

def splitBasic (cs : List Char) : List Char × List Char :=
  let tail := cs.reverse.takeWhile (· != '-')
  match cs.reverse.dropWhile (· != '-') with
  | [] => ([], cs)
  | _ :: front => (front.reverse, tail.reverse)

def decode? (cs : List Char) : Option (List Char) :=
  let (basic, rest) := splitBasic cs
  if basic.all (·.toNat < 128) then insertions rest.length 128 0 72 basic rest else none

end Telemetry.Url.Punycode
