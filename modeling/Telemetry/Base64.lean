namespace Telemetry.Base64

def padding : UInt8 := 61

def symbol (n : Nat) : UInt8 :=
  UInt8.ofNat <|
    if n < 26 then 65 + n
    else if n < 52 then 71 + n
    else if n < 62 then n - 4
    else if n = 62 then 43
    else 47

def value? (b : UInt8) : Option Nat :=
  let n := b.toNat
  if 65 ≤ n ∧ n ≤ 90 then some (n - 65)
  else if 97 ≤ n ∧ n ≤ 122 then some (n - 71)
  else if 48 ≤ n ∧ n ≤ 57 then some (n + 4)
  else if n = 43 then some 62
  else if n = 47 then some 63
  else none

def encode : List UInt8 → List UInt8
  | a :: b :: c :: rest =>
    let n := a.toNat * 65536 + b.toNat * 256 + c.toNat
    symbol (n / 262144) :: symbol (n / 4096 % 64) :: symbol (n / 64 % 64) :: symbol (n % 64) ::
      encode rest
  | [a, b] =>
    let n := a.toNat * 1024 + b.toNat * 4
    [symbol (n / 4096), symbol (n / 64 % 64), symbol (n % 64), padding]
  | [a] =>
    let n := a.toNat * 16
    [symbol (n / 64), symbol (n % 64), padding, padding]
  | [] => []

def ofValues : List Nat → List UInt8
  | a :: b :: c :: d :: rest =>
    let n := ((a * 64 + b) * 64 + c) * 64 + d
    UInt8.ofNat (n / 65536) :: UInt8.ofNat (n / 256 % 256) :: UInt8.ofNat (n % 256) ::
      ofValues rest
  | [a, b, c] =>
    let n := (a * 64 + b) * 64 + c
    [UInt8.ofNat (n / 1024), UInt8.ofNat (n / 4 % 256)]
  | [a, b] => [UInt8.ofNat ((a * 64 + b) / 16)]
  | _ => []

inductive Fault where
  | symbol (byte : UInt8) (offset : Nat)
  | lastSymbol (byte : UInt8) (offset : Nat)
  | length (n : Nat)
  | padding
  deriving DecidableEq

def Fault.message : Fault → String
  | symbol byte offset =>
    "Invalid symbol " ++ byte.toNat.repr ++ ", offset " ++ offset.repr ++ "."
  | lastSymbol byte offset =>
    "Invalid last symbol " ++ byte.toNat.repr ++ ", offset " ++ offset.repr ++ "."
  | length n => "Invalid input length: " ++ n.repr
  | padding => "Invalid padding"

def values (offset : Nat) : List UInt8 → Except Fault (List Nat)
  | [] => .ok []
  | b :: bs =>
    match value? b with
    | none => .error (.symbol b offset)
    | some n => (values (offset + 1) bs).map (n :: ·)

/-- The values of the last group, which has four bytes at most. Padding stands only at its end and
after two symbols at least; the bits that make up no byte are zero. -/
def lastGroup (offset : Nat) (bs : List UInt8) : Except Fault (List Nat) := do
  let symbols := bs.takeWhile (· != padding)
  let pads := bs.dropWhile (· != padding)
  let ns ← values offset symbols
  if !pads.isEmpty && (ns.length < 2 || pads.any (· != padding)) then
    throw (.symbol padding (offset + ns.length))
  if ns.length = 1 then throw (.length (offset + 1))
  if bs.length % 4 ≠ 0 then throw .padding
  let unused := if ns.length = 2 then 16 else if ns.length = 3 then 4 else 1
  if ns.getLastD 0 % unused ≠ 0 then
    throw (.lastSymbol (symbols.getLastD padding) (offset + ns.length - 1))
  return ns

def groups (offset : Nat) : List UInt8 → Except Fault (List Nat)
  | a :: b :: c :: d :: e :: rest => do
    let ns ← values offset [a, b, c, d]
    let more ← groups (offset + 4) (e :: rest)
    return ns ++ more
  | bs => lastGroup offset bs

/-- One byte too many at the end, and not one that could belong to the text: it is named before
anything else, since a stray line end is the most common mistake. -/
def strayEnd? (bs : List UInt8) : Option Fault :=
  match bs.getLast? with
  | some b =>
    if bs.length % 4 = 1 && b != padding && (value? b).isNone then
      some (.symbol b (bs.length - 1))
    else none
  | none => none

def decode (bs : List UInt8) : Except Fault (List UInt8) :=
  match strayEnd? bs with
  | some f => .error f
  | none => (groups 0 bs).map ofValues

end Telemetry.Base64
