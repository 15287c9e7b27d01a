import Telemetry.Text.Hex
import Telemetry.Text.Utf8

namespace Telemetry.Url.Percent

def fragmentSet : List Char := [' ', '"', '<', '>', '\x60']
def pathSet : List Char := fragmentSet ++ ['#', '?', '\x7b', '\x7d']
def querySet : List Char := [' ', '"', '#', '<', '>']
def specialQuerySet : List Char := '\'' :: querySet
def userinfoSet : List Char :=
  pathSet ++ ['/', ':', ';', '=', '@', '[', '\\', ']', '^', '|']

def escape (b : UInt8) : List Char :=
  ['%', Hex.upperDigit (b.toNat / 16), Hex.upperDigit (b.toNat % 16)]

def encodeChar (set : List Char) (c : Char) : List Char :=
  if c.toNat < 0x20 || 0x7F ≤ c.toNat || set.contains c then
    (String.utf8EncodeChar c).flatMap escape
  else [c]

def encode (set : List Char) (cs : List Char) : List Char :=
  cs.flatMap (encodeChar set)

def escaped? : List Char → Option UInt8
  | a :: b :: _ => do
    let high ← Hex.digit? a
    let low ← Hex.digit? b
    return UInt8.ofNat (16 * high + low)
  | _ => none

/-- The bytes that a text stands for: a percent sign without two digits stands for itself. -/
def decode : List Char → List UInt8
  | [] => []
  | c :: cs =>
    match if c = '%' then escaped? cs else none with
    | some b => b :: decode (cs.drop 2)
    | none => String.utf8EncodeChar c ++ decode cs
termination_by cs => cs.length
decreasing_by all_goals simp only [List.length_drop, List.length_cons]; omega

end Telemetry.Url.Percent
