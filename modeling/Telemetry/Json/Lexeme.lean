import Telemetry.Json.Basic
import Telemetry.Json.Rounding
import Telemetry.Text.Hex

namespace Telemetry.Json

inductive Fault where
  | malformed
  | truncated
  deriving DecidableEq

def isSpace (c : Char) : Bool :=
  c == ' ' || c == '\n' || c == '\t' || c == '\r'

def skipSpace (cs : List Char) : List Char :=
  cs.dropWhile isSpace

def faultAt : List Char → Fault
  | [] => .truncated
  | _ :: _ => .malformed

def expect : List Char → List Char → Except Fault (List Char)
  | [], cs => .ok cs
  | _ :: _, [] => .error .truncated
  | e :: es, c :: cs => if e = c then expect es cs else .error .malformed

section Strings

def hexFour (cs : List Char) : Except Fault Nat :=
  let four := cs.take 4
  if four.foldl (fun n c ↦ n + c.utf8Size) 0 < 4 then .error .truncated
  else match if four.length = 4 then Hex.value? four else none with
    | some n => .ok n
    | none => .error .malformed

def isLeadingSurrogate (n : Nat) : Bool := 0xD800 ≤ n && n ≤ 0xDBFF
def isTrailingSurrogate (n : Nat) : Bool := 0xDC00 ≤ n && n ≤ 0xDFFF

/-- The character of an escape that gives a code unit, and the characters it takes: a leading
surrogate takes the escape of its trailing one too. -/
def unicodeEscape (cs : List Char) : Except Fault (Char × Nat) := do
  let n ← hexFour cs
  if isTrailingSurrogate n then .error .malformed
  else if !isLeadingSurrogate n then .ok (Char.ofNat n, 4)
  else match cs.drop 4 with
    | [] => .error .truncated
    | '\\' :: [] => .error .truncated
    | '\\' :: 'u' :: rest =>
      let m ← hexFour rest
      if isTrailingSurrogate m then
        .ok (Char.ofNat (0x10000 + (n - 0xD800) * 0x400 + (m - 0xDC00)), 10)
      else .error .malformed
    | _ => .error .malformed

def simpleEscape? (c : Char) : Option Char :=
  match c with
  | '"' => some '"'
  | '\\' => some '\\'
  | '/' => some '/'
  | 'b' => some '\x08'
  | 'f' => some '\x0c'
  | 'n' => some '\n'
  | 'r' => some '\r'
  | 't' => some '\t'
  | _ => none

def escape : List Char → Except Fault (Char × Nat)
  | [] => .error .truncated
  | 'u' :: rest => (unicodeEscape rest).map fun (c, n) ↦ (c, n + 1)
  | c :: _ => match simpleEscape? c with
    | some d => .ok (d, 1)
    | none => .error .malformed

/-- The characters that the escape after a backslash takes, whatever code unit it gives. -/
def escapeLength : List Char → Except Fault Nat
  | [] => .error .truncated
  | 'u' :: rest => (hexFour rest).map fun _ ↦ 5
  | c :: _ => if (simpleEscape? c).isSome then .ok 1 else .error .malformed

def readString : List Char → Except Fault (List Char × List Char)
  | [] => .error .truncated
  | c :: rest =>
    if c = '"' then .ok ([], rest)
    else if c = '\\' then
      match escape rest with
      | .ok (d, n) => (readString (rest.drop n)).map fun (s, more) ↦ (d :: s, more)
      | .error e => .error e
    else if c.toNat < 0x20 then .error .malformed
    else (readString rest).map fun (s, more) ↦ (c :: s, more)
termination_by cs => cs.length
decreasing_by all_goals simp only [List.length_drop, List.length_cons]; omega

def skipString : List Char → Except Fault (List Char)
  | [] => .error .truncated
  | c :: rest =>
    if c = '"' then .ok rest
    else if c = '\\' then
      match escapeLength rest with
      | .ok n => skipString (rest.drop n)
      | .error e => .error e
    else if c.toNat < 0x20 then .error .malformed
    else skipString rest
termination_by cs => cs.length
decreasing_by all_goals simp only [List.length_drop, List.length_cons]; omega

end Strings

section Numbers

open Digits (isDigit)

variable [Rounding]

def readExponent (cs : List Char) : Except Fault (Int × List Char) :=
  let (negative, ds) := match cs with
    | '-' :: rest => (true, rest)
    | '+' :: rest => (false, rest)
    | _ => (false, cs)
  let digits := ds.takeWhile isDigit
  if digits.isEmpty then .error (faultAt ds)
  else
    let e : Int := Digits.value digits
    .ok (if negative then -e else e, ds.dropWhile isDigit)

def readScale : List Char → Except Fault (Int × List Char)
  | 'e' :: more => readExponent more
  | 'E' :: more => readExponent more
  | cs => .ok (0, cs)

def real (negative : Bool) (whole fraction : List Char) (exponent : Int) : Except Fault Number :=
  let x := Rounding.round whole fraction exponent
  if x.isFinite then .ok (.real (if negative then x.negate else x)) else .error .malformed

def readScaled (negative : Bool) (whole fraction cs : List Char) :
    Except Fault (Number × List Char) := do
  let (e, rest) ← readScale cs
  return (← real negative whole fraction e, rest)

/-- An integer that fits 64 bits with its sign; zero with a sign does not. -/
def integer? (negative : Bool) (n : Nat) : Option Number :=
  if !negative then if n < Nat.pow 2 64 then some (.natural n) else none
  else if 0 < n && n ≤ Nat.pow 2 63 then some (.negative (n - 1))
  else none

def readNumber (negative : Bool) (cs : List Char) : Except Fault (Number × List Char) := do
  let whole := cs.takeWhile isDigit
  let rest := cs.dropWhile isDigit
  match whole with
  | [] => .error (faultAt rest)
  | '0' :: _ :: _ => .error .malformed
  | _ =>
    match rest with
    | '.' :: more =>
      let fraction := more.takeWhile isDigit
      let after := more.dropWhile isDigit
      if fraction.isEmpty then .error (faultAt after)
      else readScaled negative whole fraction after
    | 'e' :: _ | 'E' :: _ => readScaled negative whole [] rest
    | _ =>
      match integer? negative (Digits.value whole) with
      | some k => return (k, rest)
      | none => return (← real negative whole [] 0, rest)

def skipExponent (cs : List Char) : Except Fault (List Char) :=
  let ds := match cs with
    | '-' :: rest => rest
    | '+' :: rest => rest
    | _ => cs
  if (ds.takeWhile isDigit).isEmpty then .error .malformed else .ok (ds.dropWhile isDigit)

def skipScale : List Char → Except Fault (List Char)
  | 'e' :: more => skipExponent more
  | 'E' :: more => skipExponent more
  | cs => .ok cs

def skipNumber (cs : List Char) : Except Fault (List Char) :=
  match cs.takeWhile isDigit with
  | [] => .error .malformed
  | '0' :: _ :: _ => .error .malformed
  | _ =>
    match cs.dropWhile isDigit with
    | '.' :: more =>
      if (more.takeWhile isDigit).isEmpty then .error .malformed
      else skipScale (more.dropWhile isDigit)
    | rest => skipScale rest

end Numbers

end Telemetry.Json
