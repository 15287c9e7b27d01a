import Telemetry.Json.Parser
import Telemetry.Binary64.Decimal
import Telemetry.Text.Quoted

namespace Telemetry.Json

inductive Found where
  | null
  | bool (b : Bool)
  | num (n : Number)
  | str (s : String)
  | sequence
  | map
  | unitVariant

def Found.ofJson : Json → Found
  | .null => .null
  | .bool b => .bool b
  | .num n => .num n
  | .str s => .str s
  | .arr _ => .sequence
  | .obj _ => .map

/-- Numbers in messages are positional from 10^-5 to below 10^16. -/
def messageLayout : Binary64.Layout := ⟨-5, 15⟩

def Found.describe : Found → String
  | .null => "null"
  | .bool b => "boolean `" ++ (if b then "true" else "false") ++ "`"
  | .num (.natural n) => "integer `" ++ n.repr ++ "`"
  | .num (.negative n) => "integer `-" ++ (n + 1).repr ++ "`"
  | .num (.real x) => "floating point `" ++ x.render messageLayout ++ "`"
  | .str s => "string " ++ Text.quoted s
  | .sequence => "sequence"
  | .map => "map"
  | .unitVariant => "unit variant"

inductive Mismatch where
  | wrongType (found : Found) (expected : String)
  | wrongValue (found : Found) (expected : String)
  | tooLong (length : Nat)
  | unknownVariant (name : String) (known : List String)
  | duplicateField (name : String)

def alternatives (names : List String) : String :=
  match names.map fun n ↦ "`" ++ n ++ "`" with
  | [a] => a
  | [a, b] => a ++ " or " ++ b
  | all => "one of " ++ ", ".intercalate all

def Mismatch.message : Mismatch → String
  | .wrongType found expected =>
    "invalid type: " ++ found.describe ++ ", expected " ++ expected
  | .wrongValue found expected =>
    "invalid value: " ++ found.describe ++ ", expected " ++ expected
  | .tooLong length =>
    "invalid length " ++ length.repr ++ ", expected fewer elements in array"
  | .unknownVariant name known =>
    "unknown variant `" ++ name ++ "`, expected " ++ alternatives known
  | .duplicateField name => "duplicate field `" ++ name ++ "`"

inductive ReadError where
  | fault (f : Fault)
  | mismatch (m : Mismatch)

def lexed {α : Type} (r : Except Fault α) : Except ReadError α :=
  r.mapError .fault

def failed {α : Type} (m : Mismatch) : Except ReadError α :=
  .error (.mismatch m)

structure Decoder (α : Type) where
  ofJson : Json → Except Mismatch α
  read : List Char → Except ReadError (α × List Char)

namespace Decoder

variable {α β ρ : Type} [Rounding]

def map (f : α → β) (d : Decoder α) : Decoder β where
  ofJson j := (d.ofJson j).map f
  read cs := (d.read cs).map fun (a, rest) ↦ (f a, rest)

/-- The error for text that is not what was expected: scalars are read to be shown, and must be
well formed for that. -/
def refuse (expected : String) (cs : List Char) : Except ReadError (α × List Char) :=
  let wrong (found : Found) : Except ReadError (α × List Char) := failed (.wrongType found expected)
  match skipSpace cs with
  | 'n' :: rest => do let _ ← lexed (expect ['u', 'l', 'l'] rest); wrong .null
  | 't' :: rest => do let _ ← lexed (expect ['r', 'u', 'e'] rest); wrong (.bool true)
  | 'f' :: rest => do let _ ← lexed (expect ['a', 'l', 's', 'e'] rest); wrong (.bool false)
  | '"' :: rest => do let (s, _) ← lexed (readString rest); wrong (.str (String.ofList s))
  | '-' :: rest => do let (n, _) ← lexed (readNumber true rest); wrong (.num n)
  | '[' :: _ => wrong .sequence
  | '{' :: _ => wrong .map
  | [] => .error (.fault .truncated)
  | c :: rest =>
    if Digits.isDigit c then do
      let (n, _) ← lexed (readNumber false (c :: rest))
      wrong (.num n)
    else .error (.fault .malformed)

def text : Decoder String where
  ofJson
    | .str s => .ok s
    | j => .error (.wrongType (.ofJson j) "a string")
  read cs := match skipSpace cs with
    | '"' :: rest => do let (s, more) ← lexed (readString rest); .ok (String.ofList s, more)
    | _ => refuse "a string" cs

def flag : Decoder Bool where
  ofJson
    | .bool b => .ok b
    | j => .error (.wrongType (.ofJson j) "a boolean")
  read cs := match skipSpace cs with
    | 't' :: rest => do let more ← lexed (expect ['r', 'u', 'e'] rest); .ok (true, more)
    | 'f' :: rest => do let more ← lexed (expect ['a', 'l', 's', 'e'] rest); .ok (false, more)
    | _ => refuse "a boolean" cs

def unit : Decoder Unit where
  ofJson
    | .null => .ok ()
    | j => .error (.wrongType (.ofJson j) "unit")
  read cs := match skipSpace cs with
    | 'n' :: rest => do let more ← lexed (expect ['u', 'l', 'l'] rest); .ok ((), more)
    | _ => refuse "unit" cs

def number (accept : Number → Except Mismatch α) (expected : String) : Decoder α where
  ofJson
    | .num n => accept n
    | j => .error (.wrongType (.ofJson j) expected)
  read cs :=
    let finish (negative : Bool) (cs : List Char) : Except ReadError (α × List Char) := do
      let (n, more) ← lexed (readNumber negative cs)
      match accept n with
      | .ok a => .ok (a, more)
      | .error m => failed m
    match skipSpace cs with
    | '-' :: rest => finish true rest
    | c :: rest => if Digits.isDigit c then finish false (c :: rest) else refuse expected cs
    | [] => refuse expected cs

def word : Decoder Nat :=
  number (fun
    | .natural n => .ok n
    | .negative n => .error (.wrongValue (.num (.negative n)) "u64")
    | .real x => .error (.wrongType (.num (.real x)) "u64")) "u64"

def real : Decoder Binary64 :=
  number (fun n ↦ .ok n.toBinary64) "f64"

def nullable (d : Decoder α) : Decoder (Option α) where
  ofJson
    | .null => .ok none
    | j => (d.ofJson j).map some
  read cs := match skipSpace cs with
    | 'n' :: rest => do let more ← lexed (expect ['u', 'l', 'l'] rest); .ok (none, more)
    | _ => (d.read cs).map fun (a, more) ↦ (some a, more)

end Decoder

inductive Payload (α : Type) where
  | none (value : α)
  | one (d : Decoder α)

structure Variant (α : Type) where
  name : String
  payload : Payload α

namespace Variant

variable {α : Type} [Rounding]

def find (vs : List (Variant α)) (name : String) : Except Mismatch (Variant α) :=
  match vs.find? fun v ↦ v.name == name with
  | some v => .ok v
  | none => .error (.unknownVariant name (vs.map (·.name)))

def plain (v : Variant α) : Except Mismatch α :=
  match v.payload with
  | .none value => .ok value
  | .one _ => .error (.wrongType .unitVariant "newtype variant")

def ofJson (v : Variant α) (j : Json) : Except Mismatch α :=
  match v.payload with
  | .none value => (Decoder.unit.ofJson j).map fun _ ↦ value
  | .one d => d.ofJson j

def read (v : Variant α) (cs : List Char) : Except ReadError (α × List Char) :=
  match v.payload with
  | .none value => (Decoder.unit.read cs).map fun (_, more) ↦ (value, more)
  | .one d => d.read cs

end Variant

/-- One of several variants: a name, or an object with the name as its only key. -/
def Decoder.choice {α : Type} [Rounding] (vs : List (Variant α)) : Decoder α where
  ofJson
    | .str name => do (← Variant.find vs name).plain
    | .obj [(name, value)] => do (← Variant.find vs name).ofJson value
    | .obj _ => .error (.wrongValue .map "map with a single key")
    | j => .error (.wrongType (.ofJson j) "string or map")
  read cs := match skipSpace cs with
    | '"' :: rest => do
      let (name, more) ← lexed (readString rest)
      match Variant.find vs (String.ofList name) >>= Variant.plain with
      | .ok a => .ok (a, more)
      | .error m => failed m
    | '{' :: rest => match skipSpace rest with
      | '"' :: key => do
        let (name, more) ← lexed (readString key)
        let v ← (Variant.find vs (String.ofList name)).mapError .mismatch
        let (a, after) ← v.read (← lexed (colon more))
        match skipSpace after with
        | '}' :: more => .ok (a, more)
        | other => .error (.fault (faultAt other))
      | _ => Decoder.refuse "variant identifier" rest
    | other => .error (.fault (faultAt other))

/-- A named field of a record, as a decoder of the change that its value makes. -/
structure Field (ρ : Type) where
  name : String
  change : Decoder (ρ → ρ)

namespace Field

variable {ρ : Type}

def find? (fs : List (Field ρ)) (name : String) : Option (Field ρ) :=
  fs.find? fun f ↦ f.name == name

abbrev Progress (ρ : Type) := ρ × List String

/-- One member of an object: a known field may be given once, unknown keys are passed over. -/
def acceptMember (fs : List (Field ρ)) (p : Progress ρ) (m : String × Json) :
    Except Mismatch (Progress ρ) :=
  match find? fs m.1 with
  | none => .ok p
  | some f =>
    if p.2.contains m.1 then .error (.duplicateField m.1)
    else (f.change.ofJson m.2).map fun change ↦ (change p.1, m.1 :: p.2)

def acceptItem (r : ρ) (x : Field ρ × Json) : Except Mismatch ρ :=
  (x.1.change.ofJson x.2).map fun change ↦ change r

def readMember (fs : List (Field ρ)) (p : Progress ρ) (name : String) (cs : List Char) :
    Except ReadError (Progress ρ × List Char) :=
  match find? fs name with
  | none => do return (p, ← lexed (do skipValue (← colon cs)))
  | some f =>
    if p.2.contains name then failed (.duplicateField name)
    else do
      let (change, rest) ← f.change.read (← lexed (colon cs))
      return ((change p.1, name :: p.2), rest)

def readMembers (fs : List (Field ρ)) :
    Nat → Progress ρ → List Char → Except ReadError (ρ × List Char)
  | 0, _, _ => .error (.fault .malformed)
  | fuel + 1, p, cs => do
    let (key, after) ← lexed (readString (← lexed (openKey cs)))
    let (p, rest) ← readMember fs p (String.ofList key) after
    match ← lexed (separator '}' rest) with
    | .more rest => readMembers fs fuel p rest
    | .done rest => .ok (p.1, rest)

def readItems : List (Field ρ) → Bool → ρ → List Char → Except ReadError (ρ × List Char)
  | [], _, r, cs => match skipSpace cs with
    | ']' :: rest => .ok (r, rest)
    | other => .error (.fault (faultAt other))
  | f :: fs, first, r, cs => match skipSpace cs with
    | ']' :: rest => .ok (r, rest)
    | other => do
      let value ← if first then .ok other else match other with
        | ',' :: rest => .ok rest
        | _ => .error (.fault (faultAt other))
      let (change, rest) ← f.change.read value
      readItems fs false (change r) rest

end Field

/-- A record with a default for each field: an object with some of the fields in any order, or an
array of the first fields in their order. -/
def Decoder.record {ρ : Type} [Rounding] (expected : String) (initial : ρ) (fs : List (Field ρ)) :
    Decoder ρ where
  ofJson
    | .obj members => (members.foldlM (Field.acceptMember fs) (initial, [])).map (·.1)
    | .arr items => do
      let r ← (fs.zip items).foldlM Field.acceptItem initial
      if fs.length < items.length then .error (.tooLong items.length) else .ok r
    | j => .error (.wrongType (.ofJson j) expected)
  read cs := match skipSpace cs with
    | '{' :: rest => match skipSpace rest with
      | '}' :: more => .ok (initial, more)
      | more => Field.readMembers fs (more.length + 1) (initial, []) more
    | '[' :: rest => Field.readItems fs true initial rest
    | _ => Decoder.refuse expected cs

def Decoder.ofText {α : Type} (d : Decoder α) (s : String) : Except ReadError α := do
  let (a, rest) ← d.read s.toList
  match skipSpace rest with
  | [] => .ok a
  | _ => .error (.fault .malformed)

end Telemetry.Json
