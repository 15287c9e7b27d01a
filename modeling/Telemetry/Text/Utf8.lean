namespace Telemetry.Utf8

structure Lead where
  least : UInt8
  most : UInt8
  more : Nat

def lead? (b : UInt8) : Option Lead :=
  if 0xC2 ≤ b && b ≤ 0xDF then some ⟨0x80, 0xBF, 1⟩
  else if b == 0xE0 then some ⟨0xA0, 0xBF, 2⟩
  else if b == 0xED then some ⟨0x80, 0x9F, 2⟩
  else if 0xE1 ≤ b && b ≤ 0xEF then some ⟨0x80, 0xBF, 2⟩
  else if b == 0xF0 then some ⟨0x90, 0xBF, 3⟩
  else if 0xF1 ≤ b && b ≤ 0xF3 then some ⟨0x80, 0xBF, 3⟩
  else if b == 0xF4 then some ⟨0x80, 0x8F, 3⟩
  else none

def continuation (least most : UInt8) : Nat → List UInt8 → List UInt8
  | n + 1, b :: bs =>
    if least ≤ b && b ≤ most then b :: continuation 0x80 0xBF n bs else []
  | _, _ => []

/-- A character, or nothing for a malformed sequence, with the number of bytes it took after the
first one. A malformed sequence takes the bytes that could have begun a well-formed one. -/
def head (b : UInt8) (bs : List UInt8) : Option Char × Nat :=
  if b < 0x80 then (some (Char.ofNat b.toNat), 0)
  else match lead? b with
    | none => (none, 0)
    | some l =>
      let tail := continuation l.least l.most l.more bs
      if tail.length = l.more then
        let first := b.toNat % (if l.more = 1 then 32 else if l.more = 2 then 16 else 8)
        (some (Char.ofNat (tail.foldl (fun n c ↦ 64 * n + c.toNat % 64) first)), l.more)
      else (none, tail.length)

def chars : List UInt8 → List (Option Char)
  | [] => []
  | b :: bs => (head b bs).1 :: chars (bs.drop (head b bs).2)
termination_by bs => bs.length
decreasing_by simp only [List.length_drop, List.length_cons]; omega

def decode? (bs : List UInt8) : Option String :=
  ((chars bs).mapM id).map String.ofList

def decodeLossy (bs : List UInt8) : String :=
  String.ofList ((chars bs).map (·.getD '\uFFFD'))

def encodeChars (cs : List Char) : List UInt8 :=
  cs.flatMap String.utf8EncodeChar

def encode (s : String) : List UInt8 :=
  encodeChars s.toList

end Telemetry.Utf8
