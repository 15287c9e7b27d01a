import Telemetry.Json.Lexeme

namespace Telemetry.Json

inductive Separator where
  | more (rest : List Char)
  | done (rest : List Char)

def separator (close : Char) (cs : List Char) : Except Fault Separator :=
  match skipSpace cs with
  | [] => .error .truncated
  | c :: rest =>
    if c = ',' then .ok (.more rest)
    else if c = close then .ok (.done rest)
    else .error .malformed

def colon (cs : List Char) : Except Fault (List Char) :=
  match skipSpace cs with
  | ':' :: rest => .ok rest
  | rest => .error (faultAt rest)

def openKey (cs : List Char) : Except Fault (List Char) :=
  match skipSpace cs with
  | '"' :: rest => .ok rest
  | rest => .error (faultAt rest)

mutual

def skipWithin : Nat → List Char → Except Fault (List Char)
  | 0, _ => .error .malformed
  | fuel + 1, cs =>
    match skipSpace cs with
    | 'n' :: rest => expect ['u', 'l', 'l'] rest
    | 't' :: rest => expect ['r', 'u', 'e'] rest
    | 'f' :: rest => expect ['a', 'l', 's', 'e'] rest
    | '"' :: rest => skipString rest
    | '-' :: rest => skipNumber rest
    | '[' :: rest => match skipSpace rest with
      | ']' :: more => .ok more
      | more => skipItems fuel more
    | '{' :: rest => match skipSpace rest with
      | '}' :: more => .ok more
      | more => skipMembers fuel more
    | [] => .error .truncated
    | c :: rest => if Digits.isDigit c then skipNumber (c :: rest) else .error .malformed

def skipItems : Nat → List Char → Except Fault (List Char)
  | 0, _ => .error .malformed
  | fuel + 1, cs => do
    match ← separator ']' (← skipWithin fuel cs) with
    | .more rest => skipItems fuel rest
    | .done rest => .ok rest

def skipMembers : Nat → List Char → Except Fault (List Char)
  | 0, _ => .error .malformed
  | fuel + 1, cs => do
    let value ← colon (← skipString (← openKey cs))
    match ← separator '}' (← skipWithin fuel value) with
    | .more rest => skipMembers fuel rest
    | .done rest => .ok rest

end

def skipValue (cs : List Char) : Except Fault (List Char) :=
  skipWithin (2 * cs.length + 2) cs

variable [Rounding]

mutual

def readWithin : Nat → List Char → Except Fault (Json × List Char)
  | 0, _ => .error .malformed
  | fuel + 1, cs =>
    match skipSpace cs with
    | 'n' :: rest => (expect ['u', 'l', 'l'] rest).map (Json.null, ·)
    | 't' :: rest => (expect ['r', 'u', 'e'] rest).map (Json.bool true, ·)
    | 'f' :: rest => (expect ['a', 'l', 's', 'e'] rest).map (Json.bool false, ·)
    | '"' :: rest => (readString rest).map fun (s, more) ↦ (.str (String.ofList s), more)
    | '-' :: rest => (readNumber true rest).map fun (n, more) ↦ (.num n, more)
    | '[' :: rest => match skipSpace rest with
      | ']' :: more => .ok (.arr [], more)
      | more => (readItems fuel more).map fun (items, more) ↦ (.arr items, more)
    | '{' :: rest => match skipSpace rest with
      | '}' :: more => .ok (.obj [], more)
      | more => (readMembers fuel more).map fun (members, more) ↦
          (.obj (members.foldl (fun ms m ↦ insertMember m.1 m.2 ms) []), more)
    | [] => .error .truncated
    | c :: rest =>
      if Digits.isDigit c then (readNumber false (c :: rest)).map fun (n, more) ↦ (.num n, more)
      else .error .malformed

def readItems : Nat → List Char → Except Fault (List Json × List Char)
  | 0, _ => .error .malformed
  | fuel + 1, cs => do
    let (item, after) ← readWithin fuel cs
    match ← separator ']' after with
    | .more rest => (readItems fuel rest).map fun (items, more) ↦ (item :: items, more)
    | .done rest => .ok ([item], rest)

def readMembers : Nat → List Char → Except Fault (List (String × Json) × List Char)
  | 0, _ => .error .malformed
  | fuel + 1, cs => do
    let (key, after) ← readString (← openKey cs)
    let (value, after) ← readWithin fuel (← colon after)
    match ← separator '}' after with
    | .more rest => (readMembers fuel rest).map fun (members, more) ↦
        ((String.ofList key, value) :: members, more)
    | .done rest => .ok ([(String.ofList key, value)], rest)

end

/-- The value that a whole text writes, its object members sorted by key. -/
def parse (s : String) : Except Fault Json := do
  let (value, rest) ← readWithin (2 * s.toList.length + 2) s.toList
  match skipSpace rest with
  | [] => .ok value
  | _ => .error .malformed

end Telemetry.Json
