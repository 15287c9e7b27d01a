import Telemetry.Pattern.Basic
import Telemetry.Text.Blank
import Telemetry.Text.Hex
import Telemetry.Text.WordTable

namespace Telemetry.Pattern

structure Mode where
  anyCase : Bool := false
  manyLines : Bool := false
  dotTakesAll : Bool := false
  lazyFirst : Bool := false
  spaced : Bool := false
  asciiOnly : Bool := false

namespace Mode

def set (on : Bool) (m : Mode) : Char → Mode
  | 'i' => { m with anyCase := on }
  | 'm' => { m with manyLines := on }
  | 's' => { m with dotTakesAll := on }
  | 'U' => { m with lazyFirst := on }
  | 'x' => { m with spaced := on }
  | 'u' => { m with asciiOnly := !on }
  | _ => m

def flagged? (m : Mode) (cs : List Char) : Option Mode :=
  let letters := cs.filter (· != '-')
  if 1 < cs.count '-' || cs.getLast? == some '-' || letters.eraseDups != letters ||
    !letters.all ['i', 'm', 's', 'U', 'x', 'u'].contains then none
  else
    let on := cs.takeWhile (· != '-')
    some ((letters.drop on.length).foldl (set false) (on.foldl (set true) m))

def ignored (m : Mode) (cs : List Char) : Nat :=
  if !m.spaced then 0
  else match cs with
    | [] => 0
    | c :: rest =>
      if Text.isBlank c then 1
      else if c = '#' then 1 + (rest.takeWhile (· != '\n')).length
      else 0

def finish? (m : Mode) (s : CharSet) : Option CharSet :=
  if m.anyCase then if m.asciiOnly then some (.anyCase s) else none else some s

def admit? (m : Mode) (s : CharSet) : Option CharSet :=
  if m.asciiOnly && (List.range 128).any fun n ↦ s.contains (n + 128) then none else some s

end Mode

section Sets

def digitRanges : List (Nat × Nat) := [(0x30, 0x39)]
def spaceRanges : List (Nat × Nat) := [(0x9, 0xD), (0x20, 0x20)]
def wordRanges : List (Nat × Nat) := [(0x30, 0x39), (0x41, 0x5A), (0x5F, 0x5F), (0x61, 0x7A)]

def asciiClasses : List (String × List (Nat × Nat)) :=
  [("alnum", [(0x30, 0x39), (0x41, 0x5A), (0x61, 0x7A)]), ("alpha", [(0x41, 0x5A), (0x61, 0x7A)]),
    ("ascii", [(0, 0x7F)]), ("blank", [(0x9, 0x9), (0x20, 0x20)]),
    ("cntrl", [(0, 0x1F), (0x7F, 0x7F)]), ("digit", digitRanges), ("graph", [(0x21, 0x7E)]),
    ("lower", [(0x61, 0x7A)]), ("print", [(0x20, 0x7E)]),
    ("punct", [(0x21, 0x2F), (0x3A, 0x40), (0x5B, 0x60), (0x7B, 0x7E)]), ("space", spaceRanges),
    ("upper", [(0x41, 0x5A)]), ("word", wordRanges),
    ("xdigit", [(0x30, 0x39), (0x41, 0x46), (0x61, 0x66)])]

end Sets

inductive Escape where
  | char (c : Char)
  | set (s : CharSet)
  | anchor (a : Anchor)

/-- The character with a code of `width` digits. Where only ASCII is known, a code of two digits
cannot stand for another character. -/
def hexEscape? (m : Mode) (width : Nat) (cs : List Char) : Option (Escape × Nat) := do
  let digits := cs.take width
  guard (digits.length = width)
  let n ← Hex.value? digits
  guard (n.isValidChar && !(m.asciiOnly && width == 2 && 0x80 ≤ n))
  return (.char (Char.ofNat n), width + 1)

def classEscape? (m : Mode) (ranges : List (Nat × Nat)) (negated : Bool) :
    Option (Escape × Nat) := do
  guard m.asciiOnly
  let s := CharSet.ofRanges ranges
  return (.set (← m.admit? (if negated then .other s else s)), 1)

def escape? (m : Mode) : List Char → Option (Escape × Nat)
  | [] => none
  | c :: cs => match c with
    | 'x' => hexEscape? m 2 cs
    | 'u' => hexEscape? m 4 cs
    | 'U' => hexEscape? m 8 cs
    | 'd' => classEscape? m digitRanges false
    | 'D' => classEscape? m digitRanges true
    | 's' => classEscape? m spaceRanges false
    | 'S' => classEscape? m spaceRanges true
    | 'w' => classEscape? m wordRanges false
    | 'W' => classEscape? m wordRanges true
    | 'a' => some (.char '\x07', 1)
    | 'f' => some (.char '\x0c', 1)
    | 't' => some (.char '\t', 1)
    | 'n' => some (.char '\n', 1)
    | 'r' => some (.char '\r', 1)
    | 'v' => some (.char '\x0b', 1)
    | 'A' => some (.anchor .textStart, 1)
    | 'z' => some (.anchor .textEnd, 1)
    | 'b' => if m.asciiOnly then some (.anchor .wordEdge, 1) else none
    | 'B' => if m.asciiOnly then some (.anchor .noWordEdge, 1) else none
    | _ =>
      if c.toNat < 0x80 && !c.isAlphanum && c != '<' && c != '>' then some (.char c, 1) else none

section Brackets

/-- An open bracket: what it holds so far, and what is to be done with that and an operand before
an operator. -/
structure Bracket where
  negated : Bool
  held : CharSet := .nothing
  operator : Option (CharSet → CharSet) := none

namespace Bracket

def add (b : Bracket) (s : CharSet) : Bracket := { b with held := .union b.held s }

def joined? (b : Bracket) (m : Mode) : Option CharSet := do
  let s ← m.finish? b.held
  return (b.operator.map (· s)).getD s

def operate? (b : Bracket) (m : Mode) (f : CharSet → CharSet → CharSet) : Option Bracket := do
  return { b with held := .nothing, operator := some (f (← b.joined? m)) }

def close? (b : Bracket) (m : Mode) : Option CharSet := do
  let s ← b.joined? m
  m.admit? (if b.negated then .other s else s)

/-- A bracket from after its sign, and the characters taken: a negation, hyphens, and a closing
sign that stands for itself where nothing precedes it. -/
def opened (cs : List Char) : Bracket × Nat :=
  let negated := cs.head? == some '^'
  let rest := if negated then cs.tail else cs
  let hyphens := rest.takeWhile (· == '-')
  let taken := (if negated then 1 else 0) + hyphens.length
  let b : Bracket := { negated }
  if !hyphens.isEmpty then (b.add (.single '-'), taken)
  else if rest.head? == some ']' then (b.add (.single ']'), taken + 1)
  else (b, taken)

end Bracket

def asciiClass? : List Char → Option (CharSet × Nat)
  | ':' :: cs =>
    let negated := cs.head? == some '^'
    let rest := if negated then cs.tail else cs
    let name := rest.takeWhile (· != ':')
    match rest.drop name.length, asciiClasses.lookup (String.ofList name) with
    | ':' :: ']' :: _, some ranges =>
      let s := CharSet.ofRanges ranges
      some (if negated then .other s else s, name.length + (if negated then 4 else 3))
    | _, _ => none
  | _ => none

def item? (m : Mode) : List Char → Option (Escape × Nat)
  | [] => none
  | '\\' :: cs => (escape? m cs).map fun (e, n) ↦ (e, n + 1)
  | c :: _ => some (.char c, 1)

def member? (m : Mode) (cs : List Char) : Option (CharSet × Nat) := do
  let (first, n) ← item? m cs
  match cs.drop n with
  | [] => none
  | '-' :: rest =>
    if rest.head? == some ']' || rest.head? == some '-' then alone first n
    else
      let (last, k) ← item? m rest
      match first, last with
      | .char a, .char b =>
        if a ≤ b then some (.range a.toNat b.toNat, n + 1 + k) else none
      | _, _ => none
  | _ => alone first n
where
  alone (e : Escape) (n : Nat) : Option (CharSet × Nat) :=
    match e with
    | .char c => some (.single c, n)
    | .set s => some (s, n)
    | .anchor _ => none

def bracket? (m : Mode) (b : Bracket) (outer : List Bracket) (taken : Nat) :
    List Char → Option (CharSet × Nat)
  | [] => none
  | c :: cs =>
    let skipped := m.ignored (c :: cs)
    if 0 < skipped then bracket? m b outer (taken + skipped) (cs.drop (skipped - 1))
    else if c = '[' then
      match asciiClass? cs with
      | some (s, n) => bracket? m (b.add s) outer (taken + 1 + n) (cs.drop n)
      | none =>
        let (inner, n) := Bracket.opened cs
        bracket? m inner (b :: outer) (taken + 1 + n) (cs.drop n)
    else if c = ']' then
      match b.close? m, outer with
      | some s, [] => some (s, taken + 1)
      | some s, next :: more => bracket? m (next.add s) more (taken + 1) cs
      | none, _ => none
    else match operator? c cs with
      | some f => match b.operate? m f with
        | some b => bracket? m b outer (taken + 2) (cs.drop 1)
        | none => none
      | none => match member? m (c :: cs) with
        | some (s, n) => bracket? m (b.add s) outer (taken + n) (cs.drop (n - 1))
        | none => none
termination_by cs => cs.length
decreasing_by all_goals simp only [List.length_drop, List.length_cons]; omega
where
  operator? (c : Char) (cs : List Char) : Option (CharSet → CharSet → CharSet) :=
    if cs.head? != some c then none
    else match c with
      | '&' => some .both
      | '-' => some .without
      | '~' => some .oneOnly
      | _ => none

end Brackets

section Groups

/-- An open group, or the whole expression: its finished alternatives, and what the current one
holds, latest first. Flags hold a place in it, but nothing can be repeated there. -/
structure Group where
  choices : List Pattern := []
  items : List (Option Pattern) := []

namespace Group

def add (g : Group) (p : Pattern) : Group := { g with items := some p :: g.items }

def alternative (g : Group) : Pattern :=
  (g.items.filterMap id).foldl (fun q p ↦ .sequence p q) .blank

def split (g : Group) : Group := { choices := g.alternative :: g.choices }

def whole (g : Group) : Pattern :=
  g.choices.foldl (fun q p ↦ .choice p q) g.alternative

end Group

/-- What has been read: the mode, the current group, and the groups around it with their modes. -/
structure Reader where
  mode : Mode := {}
  group : Group := {}
  outer : List (Mode × Group) := []
  names : List (List Char) := []

namespace Reader

def add (r : Reader) (p : Pattern) : Reader := { r with group := r.group.add p }

def openGroup (r : Reader) (mode : Mode) : Reader :=
  { r with mode, group := {}, outer := (r.mode, r.group) :: r.outer }

def isNameChar (c : Char) : Bool := ['_', '.', '[', ']'].contains c || Text.isWord c

def named? (r : Reader) (skipped : Nat) (cs : List Char) : Option (Reader × Nat) :=
  let name := cs.takeWhile isNameChar
  let begins := name.head?.any fun c ↦ c == '_' || (Text.isWord c && !c.isDigit)
  if begins && (cs.drop name.length).head? == some '>' && !r.names.contains name then
    some ({ r.openGroup r.mode with names := name :: r.names }, skipped + name.length + 1)
  else none

def begin? (r : Reader) : List Char → Option (Reader × Nat)
  | '?' :: 'P' :: '<' :: cs => r.named? 3 cs
  | '?' :: '<' :: cs => r.named? 2 cs
  | '?' :: cs =>
    let flags := cs.takeWhile fun c ↦ c != ':' && c != ')'
    match (cs.drop flags.length).head?, r.mode.flagged? flags with
    | some ':', some m => some (r.openGroup m, flags.length + 2)
    | some ')', some m =>
      if flags.isEmpty then none
      else some ({ r with mode := m, group.items := none :: r.group.items }, flags.length + 2)
    | _, _ => none
  | _ => some (r.openGroup r.mode, 0)

def close? (r : Reader) : Option Reader :=
  match r.outer with
  | [] => none
  | (mode, group) :: outer => some { r with mode, group := group.add r.group.whole, outer }

def repeat? (r : Reader) (sign : Char) (cs : List Char) : Option (Reader × Nat) :=
  let turned := cs.head? == some '?'
  let eager := turned == r.mode.lazyFirst
  match r.group.items with
  | some p :: items =>
    let q := match sign with
      | '?' => optional eager p
      | '+' => repeated eager p
      | _ => optional eager (repeated eager p)
    some ({ r with group.items := some q :: items }, if turned then 1 else 0)
  | _ => none

def literal? (r : Reader) (c : Char) : Option Reader := do
  return r.add (.one (← r.mode.finish? (.single c)))

def dot? (r : Reader) : Option Reader :=
  if r.mode.asciiOnly then none
  else some (r.add (.one (.other (if r.mode.dotTakesAll then .nothing else .single '\n'))))

def read? (r : Reader) (c : Char) (cs : List Char) : Option (Reader × Nat) :=
  match c with
  | '(' => r.begin? cs
  | ')' => r.close?.map (·, 0)
  | '|' => some ({ r with group := r.group.split }, 0)
  | '[' =>
    let (b, n) := Bracket.opened cs
    (bracket? r.mode b [] n (cs.drop n)).map fun (s, n) ↦ (r.add (.one s), n)
  | '?' => r.repeat? c cs
  | '*' => r.repeat? c cs
  | '+' => r.repeat? c cs
  | '\x7b' => none
  | '.' => r.dot?.map (·, 0)
  | '^' => some (r.add (.anchor (if r.mode.manyLines then .lineStart else .textStart)), 0)
  | '$' => some (r.add (.anchor (if r.mode.manyLines then .lineEnd else .textEnd)), 0)
  | '\\' => do
    let (e, n) ← escape? r.mode cs
    match e with
    | .char c => return (← r.literal? c, n)
    | .set s => return (r.add (.one s), n)
    | .anchor a => return (r.add (.anchor a), n)
  | _ => (r.literal? c).map (·, 0)

def readAll? (r : Reader) : List Char → Option Reader
  | [] => some r
  | c :: cs =>
    let skipped := r.mode.ignored (c :: cs)
    if 0 < skipped then r.readAll? (cs.drop (skipped - 1))
    else match r.read? c cs with
      | some (r, n) => r.readAll? (cs.drop n)
      | none => none
termination_by cs => cs.length
decreasing_by all_goals simp only [List.length_drop, List.length_cons]; omega

end Reader

end Groups

def parse? (cs : List Char) : Option Pattern :=
  match Reader.readAll? {} cs with
  | some r => if r.outer.isEmpty then some r.group.whole else none
  | none => none

end Telemetry.Pattern
