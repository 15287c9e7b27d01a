import Telemetry.Binary64.Basic

namespace Telemetry

inductive Json.Number where
  | natural (n : Nat)
  /-- The integer `-(n + 1)`. -/
  | negative (n : Nat)
  | real (x : Binary64)
  deriving DecidableEq

inductive Json where
  | null
  | bool (b : Bool)
  | num (n : Json.Number)
  | str (s : String)
  | arr (items : List Json)
  | obj (members : List (String × Json))

namespace Json

def Number.toBinary64 : Number → Binary64
  | .natural n => .ofNat n
  | .negative n => .ofInt (-(n + 1 : Nat))
  | .real x => x

def member? (key : String) : Json → Option Json
  | .obj members => members.lookup key
  | _ => none

/-- Members in the order of their keys, each key once: a repeated key takes its last value. -/
def insertMember (key : String) (value : Json) : List (String × Json) → List (String × Json)
  | [] => [(key, value)]
  | (k, v) :: rest =>
    if key < k then (key, value) :: (k, v) :: rest
    else if key = k then (key, value) :: rest
    else (k, v) :: insertMember key value rest

end Json

end Telemetry
