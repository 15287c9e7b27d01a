import Telemetry.Text.Composed
import Telemetry.Url.Domain.FoldTable
import Telemetry.Url.Domain.LetterTable
import Telemetry.Url.Punycode

namespace Telemetry.Url.Domain

def foldChar? (c : Char) : Option (List Char) :=
  match foldRuns.find? (·.covers c.toNat) with
  | some r => (r.image? c.toNat).map (·.map Char.ofNat)
  | none => some [c]

def fold? (cs : List Char) : Option (List Char) :=
  (cs.mapM foldChar?).map fun parts ↦ Text.composed parts.flatten

def isForbidden (c : Char) : Bool :=
  c.toNat ≤ 0x20 || c.toNat == 0x7F ||
    ['%', '#', '/', ':', '<', '>', '?', '@', '[', '\\', ']', '^', '|'].contains c

def isAscii (cs : List Char) : Bool := cs.all (·.toNat < 0x80)

section Joiners

def isVirama (c : Char) : Bool := Text.combiningClass c == 9

def isTransparent (c : Char) : Bool := Text.inRanges transparentRanges c.toNat

def joinsRight (c : Char) : Bool :=
  Text.inRanges leftJoiningRanges c.toNat || Text.inRanges dualJoiningRanges c.toNat

def joinsLeft (c : Char) : Bool :=
  Text.inRanges rightJoiningRanges c.toNat || Text.inRanges dualJoiningRanges c.toNat

/-- Whether joiners stand only where they make a difference: after a virama or, for the one that
keeps letters apart, between letters that would join. `before` is what precedes, latest first. -/
def joinersFit (before : List Char) : List Char → Bool
  | [] => true
  | c :: cs =>
    let fits :=
      if c = '\u200d' then before.head?.any isVirama
      else if c = '\u200c' then
        before.head?.any isVirama ||
          ((before.dropWhile isTransparent).head?.any joinsRight &&
            (cs.dropWhile isTransparent).head?.any joinsLeft)
      else true
    fits && joinersFit (c :: before) cs

end Joiners

section Direction

inductive Direction where
  | leftToRight
  | rightToLeft
  | europeanNumber
  | arabicNumber
  | nonspacing
  | neutral
  deriving DecidableEq

def Direction.of (c : Char) : Direction :=
  let among ranges := Text.inRanges ranges c.toNat
  if among rightToLeftRanges then rightToLeft
  else if among europeanNumberRanges then europeanNumber
  else if among arabicNumberRanges then arabicNumber
  else if among nonspacingRanges then nonspacing
  else if among neutralRanges then neutral
  else leftToRight

def isMixed (cs : List Char) : Bool :=
  cs.any fun c ↦ [.rightToLeft, .arabicNumber].contains (Direction.of c)

/-- A label of one direction: it begins with a letter, ends with a letter or a digit, and holds
nothing of the other direction. From right to left it holds digits of one kind only. -/
def hasOneDirection (cs : List Char) : Bool :=
  let directions := cs.map Direction.of
  let last := (directions.reverse.dropWhile (· == .nonspacing)).head?
  match directions with
  | [] => true
  | .leftToRight :: rest =>
    last.any [.leftToRight, .europeanNumber].contains &&
      !rest.contains .rightToLeft && !rest.contains .arabicNumber
  | .rightToLeft :: rest =>
    last.any [.rightToLeft, .europeanNumber, .arabicNumber].contains &&
      !rest.contains .leftToRight &&
      !(rest.contains .europeanNumber && rest.contains .arabicNumber)
  | _ => false

end Direction

def mostEncoded : Nat := 1000
def mostDecoded : Nat := 2000

def punycodeMark : List Char := ['x', 'n', '-', '-']

/-- What a folded label stands for: itself, or the text that follows the mark as Punycode, which
has to be a folded one beyond ASCII. -/
def meaning? (cs : List Char) : Option (List Char) := do
  if !punycodeMark.isPrefixOf cs then return cs
  let code := cs.drop 4
  guard (isAscii cs && code.length ≤ mostDecoded)
  let text ← Punycode.decode? code
  guard (!isAscii text && Punycode.encode text == code && !text.contains '.' &&
    fold? text == some text)
  return text

def isLabel (cs : List Char) : Bool :=
  !cs.any isForbidden &&
    (isAscii cs || (!cs.head?.any (Text.inRanges markRanges ·.toNat) && joinersFit [] cs))

def labelInAscii? (cs text : List Char) : Option (List Char) :=
  if isAscii cs then some cs
  else if text.length ≤ mostEncoded then some (punycodeMark ++ Punycode.encode text)
  else none

end Telemetry.Url.Domain
