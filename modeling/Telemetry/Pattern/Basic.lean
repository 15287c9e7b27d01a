namespace Telemetry

inductive CharSet where
  | nothing
  | range (low high : Nat)
  | union (a b : CharSet)
  | both (a b : CharSet)
  | without (a b : CharSet)
  | oneOnly (a b : CharSet)
  | other (a : CharSet)
  | anyCase (a : CharSet)

namespace CharSet

def otherCase (n : Nat) : Nat :=
  if (0x41 ≤ n && n ≤ 0x5A) then n + 0x20
  else if (0x61 ≤ n && n ≤ 0x7A) then n - 0x20
  else n

def contains : CharSet → Nat → Bool
  | nothing, _ => false
  | range low high, n => low ≤ n && n ≤ high
  | union a b, n => a.contains n || b.contains n
  | both a b, n => a.contains n && b.contains n
  | without a b, n => a.contains n && !b.contains n
  | oneOnly a b, n => a.contains n != b.contains n
  | other a, n => !a.contains n
  | anyCase a, n => a.contains n || a.contains (otherCase n)

def single (c : Char) : CharSet := range c.toNat c.toNat

def ofRanges (rs : List (Nat × Nat)) : CharSet :=
  rs.foldr (fun r s ↦ union (range r.1 r.2) s) nothing

end CharSet

structure Place where
  before : Option Char
  rest : List Char
  deriving DecidableEq

inductive Anchor where
  | textStart
  | textEnd
  | lineStart
  | lineEnd
  | wordEdge
  | noWordEdge
  deriving DecidableEq

namespace Anchor

def isWordChar (c : Char) : Bool := c.isAlphanum || c == '_'

def atWordEdge (p : Place) : Bool :=
  p.before.any isWordChar != p.rest.head?.any isWordChar

def holds (a : Anchor) (p : Place) : Bool :=
  match a with
  | textStart => p.before.isNone
  | textEnd => p.rest.isEmpty
  | lineStart => p.before.all (· == '\n')
  | lineEnd => p.rest.head?.all (· == '\n')
  | wordEdge => atWordEdge p
  | noWordEdge => !atWordEdge p

end Anchor

inductive Pattern where
  | blank
  | one (s : CharSet)
  | anchor (a : Anchor)
  | sequence (p q : Pattern)
  | choice (p q : Pattern)
  | optional (eager : Bool) (p : Pattern)
  | repeated (eager : Bool) (p : Pattern)

namespace Pattern

/-- Where a repetition can end, with at most `more` further rounds after the first one. A round
that takes nothing is the last one. -/
def rounds (ends : Place → List Place) (eager : Bool) : Nat → Place → List Place
  | 0, s => ends s
  | more + 1, s => ((ends s).flatMap fun t ↦
      if t.rest.length < s.rest.length then
        if eager then rounds ends eager more t ++ [t] else t :: rounds ends eager more t
      else [t]).eraseDups

/-- Where a match that begins at a place can end, the preferred ends first. -/
def ends : Pattern → Place → List Place
  | blank, s => [s]
  | one _, ⟨_, []⟩ => []
  | one cs, ⟨_, c :: rest⟩ => if cs.contains c.toNat then [⟨some c, rest⟩] else []
  | anchor a, s => if a.holds s then [s] else []
  | sequence p q, s => ((p.ends s).flatMap q.ends).eraseDups
  | choice p q, s => (p.ends s ++ q.ends s).eraseDups
  | optional eager p, s => (if eager then p.ends s ++ [s] else s :: p.ends s).eraseDups
  | repeated eager p, s => rounds p.ends eager s.rest.length s

def accepts (p : Pattern) (text : List Char) : Bool :=
  (p.ends ⟨none, text⟩).head?.any (·.rest.isEmpty)

end Pattern

end Telemetry
