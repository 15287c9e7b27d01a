namespace Telemetry.Der

structure Element where
  tag : UInt8
  body : List UInt8
  deriving DecidableEq

def number (bs : List UInt8) : Nat :=
  bs.foldl (fun n b ↦ 256 * n + b.toNat) 0

def bytes (n : Nat) : List UInt8 :=
  if n < 256 then [UInt8.ofNat n] else bytes (n / 256) ++ [UInt8.ofNat (n % 256)]

def lengthBytes (n : Nat) : List UInt8 :=
  if n < 128 then [UInt8.ofNat n]
  else UInt8.ofNat (128 + (bytes n).length) :: bytes n

def Element.encode (e : Element) : List UInt8 :=
  e.tag :: lengthBytes e.body.length ++ e.body

/-- A length in its shortest form, of two bytes at most, with what comes after it. -/
def length? : List UInt8 → Option (Nat × List UInt8)
  | [] => none
  | b :: bs =>
    if b < 128 then some (b.toNat, bs)
    else
      let digits := bs.take (b.toNat - 128)
      let n := number digits
      if b ≤ 130 && lengthBytes n = b :: digits then some (n, bs.drop (b.toNat - 128)) else none

/-- The first element, with what comes after it. Tags of several bytes are not read. -/
def element? : List UInt8 → Option (Element × List UInt8)
  | [] => none
  | tag :: bs =>
    if tag % 32 = 31 then none
    else match length? bs with
      | none => none
      | some (n, rest) => if rest.length < n then none else some (⟨tag, rest.take n⟩, rest.drop n)

theorem length_length?_lt {bs rest : List UInt8} {n : Nat} (h : length? bs = some (n, rest)) :
    rest.length < bs.length := by
  match bs with
  | [] => simp [length?] at h
  | b :: bs =>
    simp only [length?] at h
    split at h
    · grind
    · split at h
      · grind [List.length_drop]
      · simp at h

theorem length_element?_lt {bs rest : List UInt8} {e : Element}
    (h : element? bs = some (e, rest)) : rest.length < bs.length := by
  match bs with
  | [] => simp [element?] at h
  | tag :: bs =>
    simp only [element?] at h
    split at h
    · simp at h
    · split at h
      · simp at h
      · rename_i n r hl
        have := length_length?_lt hl
        split at h
        · simp at h
        · grind [List.length_drop]

def elements? (bs : List UInt8) : Option (List Element) :=
  if bs.isEmpty then some []
  else match _h : element? bs with
    | none => none
    | some (e, rest) => (elements? rest).map (e :: ·)
termination_by bs.length
decreasing_by exact length_element?_lt ‹_›

def integerTag : UInt8 := 0x02
def bitStringTag : UInt8 := 0x03
def octetStringTag : UInt8 := 0x04
def nullTag : UInt8 := 0x05
def objectTag : UInt8 := 0x06
def booleanTag : UInt8 := 0x01
def sequenceTag : UInt8 := 0x30

def ownTag (n : UInt8) : UInt8 := 0xA0 + n

def sequence (parts : List Element) : Element := ⟨sequenceTag, parts.flatMap (·.encode)⟩

def bitString (bs : List UInt8) : Element := ⟨bitStringTag, 0 :: bs⟩

namespace Element

def inside? (tag : UInt8) (e : Element) : Option (List Element) :=
  if e.tag = tag then elements? e.body else none

def natural? (e : Element) : Option Nat :=
  match e.tag == integerTag, e.body with
  | true, [b] => if b < 128 then some b.toNat else none
  | true, b :: c :: bs =>
    if b < 128 && (b != 0 || 128 ≤ c) then some (number (b :: c :: bs)) else none
  | _, _ => none

def wholeBytes? (e : Element) : Option (List UInt8) :=
  match e.tag == bitStringTag, e.body with
  | true, 0 :: bs => some bs
  | _, _ => none

end Element

end Telemetry.Der
