import Telemetry.Binary64.Decimal
import Telemetry.Logging.Entry
import Telemetry.Pattern.Parser
import Telemetry.Text.Blank
import Telemetry.Text.Split

namespace Telemetry.Logging

abbrev Detail := Nat

/-- The value that a field is wanted to have. Only texts can be found on a span. -/
inductive Wanted where
  | flag (b : Bool)
  | whole (n : Int)
  | real (x : Binary64)
  | text (expression : String)
  deriving DecidableEq

structure FieldTest where
  name : String
  value : Option Wanted
  deriving DecidableEq

structure Directive where
  target : Option String := none
  span : Option String := none
  field : Option FieldTest := none
  detail : Detail
  deriving DecidableEq

inductive DirectiveFault where
  | level
  | field
  | form
  deriving DecidableEq

def DirectiveFault.message : DirectiveFault → String
  | level => "error parsing level filter: expected one of " ++
    "\"off\", \"error\", \"warn\", \"info\", \"debug\", \"trace\", or a number 0-5"
  | field => "invalid field filter: error building NFA"
  | form => "invalid filter directive"

namespace Wanted

def ofText? (cs : List Char) : Option Wanted :=
  let s := String.ofList cs
  if s = "true" then some (.flag true)
  else if s = "false" then some (.flag false)
  else match Digits.unsigned? (Nat.pow 2 64) cs with
    | some n => some (.whole n)
    | none => match negative? cs with
      | some n => some (.whole n)
      | none => match Binary64.parse? s with
        | some x => some (.real x)
        | none => (Pattern.parse? cs).map fun _ ↦ .text s
where
  negative? : List Char → Option Int
    | '-' :: '+' :: _ => none
    | '-' :: cs => (Digits.unsigned? (Nat.pow 2 63 + 1) cs).map fun n ↦ -(n : Int)
    | _ => none

def accepts (w : Wanted) (s : String) : Bool :=
  match w with
  | .text expression => (Pattern.parse? expression.toList).any (·.accepts s.toList)
  | _ => false

end Wanted

namespace FieldTest

def ofText? (cs : List Char) : Option FieldTest :=
  match Text.splitOn '=' cs with
  | name :: value :: _ => (Wanted.ofText? value).map fun w ↦ ⟨String.ofList name, some w⟩
  | _ => some ⟨String.ofList cs, none⟩

def holds (t : FieldTest) (s : Scope) : Bool :=
  t.value.all fun w ↦ s.fields.any fun f ↦ f.1 == t.name && w.accepts f.2

end FieldTest

namespace Directive

def everything : Detail := Level.trace.detail

def detailNames : List (String × Detail) :=
  [("off", 0), ("error", 1), ("warn", 2), ("info", 3), ("debug", 4), ("trace", 5)]

def detail? (cs : List Char) : Option Detail :=
  match Digits.unsigned? 6 cs with
  | some n => some n
  | none => detailNames.lookup (String.ofList (cs.map Char.toLower))

def isStart (c : Char) : Bool := ['-', ':', '_'].contains c || Text.isWord c

section Reading

def size (cs : List Char) : Nat := cs.foldl (fun n c ↦ n + c.utf8Size) 0

def dropBytes : Nat → List Char → List Char
  | _, [] => []
  | 0, cs => cs
  | n + 1, c :: cs => dropBytes (n + 1 - c.utf8Size) cs

def takeBytes : Nat → List Char → List Char
  | _, [] => []
  | 0, _ => []
  | n + 1, c :: cs => c :: takeBytes (n + 1 - c.utf8Size) cs

/-- Where the parts of a directive stand is found without the blanks around it, but they are cut
out of the directive as it is, `whole`, by their positions in bytes. -/
def part (whole : List Char) (start stop : Nat) : List Char :=
  dropBytes start (takeBytes stop whole)

def readLevel (whole : List Char) (start : Nat) (d : Directive) :
    Except DirectiveFault Directive :=
  match dropBytes start whole with
  | [] => .ok { d with detail := everything }
  | level => match detail? level with
    | some n => .ok { d with detail := n }
    | none => .error .level

def readRest (whole : List Char) (start : Nat) (d : Directive) :
    List Char → Except DirectiveFault Directive
  | [] => .ok d
  | '=' :: _ => readLevel whole (start + 1) d
  | _ => .error .form

def readBracket (whole : List Char) (start : Nat) (d : Directive) (cs : List Char) :
    Except DirectiveFault Directive := do
  let name := cs.takeWhile fun c ↦ c != ']' && c != '\x7b'
  let stop := start + size name
  let span := String.ofList (part whole start stop)
  match cs.drop name.length with
  | ']' :: rest => readRest whole (stop + 1) { d with span := some span } rest
  | '\x7b' :: more =>
    let test := more.takeWhile (· != '\x7d')
    let close := stop + 1 + size test
    match more.drop test.length with
    | '\x7d' :: rest =>
      let text := part whole (stop + 1) close
      if text.isEmpty then .error .form
      else match FieldTest.ofText? text with
        | none => .error .field
        | some field =>
          let d := { d with span := if span.isEmpty then none else some span, field := some field }
          match rest with
          | ']' :: rest => readRest whole (close + 2) d rest
          | _ => .error .form
    | _ => .error .form
  | _ => .error .form

/-- A level or a target alone, or a target, a bracket and a level, any of them left out. Without a
level everything passes. -/
def ofText (whole : List Char) : Except DirectiveFault Directive :=
  match Text.trimChars whole with
  | [] => .error .form
  | '[' :: rest => readBracket whole 1 { detail := everything } rest
  | c :: cs =>
    if !isStart c then .error .form
    else
      let name := (c :: cs).takeWhile fun c ↦ c != '=' && c != '['
      let stop := size name
      let d : Directive :=
        { target := some (String.ofList (part whole 0 stop)), detail := everything }
      match (c :: cs).drop name.length with
      | '=' :: _ => readLevel whole (stop + 1) d
      | '[' :: rest => readBracket whole (stop + 1) d rest
      | _ => match detail? whole with
        | some n => .ok { detail := n }
        | none => .ok { target := some (String.ofList whole), detail := everything }

end Reading

def isStatic (d : Directive) : Bool :=
  d.span.isNone && d.field.all (·.value.isNone)

def isDynamic (d : Directive) : Bool :=
  d.span.isSome || d.field.isSome

def sameSubject (d e : Directive) : Bool :=
  d.target == e.target && d.span == e.span && d.field == e.field

def coversTarget (d : Directive) (target : String) : Bool :=
  d.target.all fun t ↦ t.toList.isPrefixOf target.toList

def selects (d : Directive) (s : Scope) : Bool :=
  d.coversTarget s.target && d.span.all (· == s.name) &&
    d.field.all fun t ↦ s.fields.any (·.1 == t.name)

/-- Of two directives that are about the same event, whether `e` yields to `d`: the longer target
decides, then a field, then the later one of the names of fields. -/
def yieldsTo (e d : Directive) : Bool :=
  let length (d : Directive) : Nat := (d.target.map (·.utf8ByteSize + 1)).getD 0
  if length e = length d then
    match e.field, d.field with
    | none, _ => true
    | some _, none => false
    | some a, some b => !(b.name < a.name)
  else length e < length d

end Directive

end Telemetry.Logging
