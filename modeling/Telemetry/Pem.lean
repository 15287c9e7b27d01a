import Telemetry.Base64
import Telemetry.Text.Quoted
import Telemetry.Text.Utf8

namespace Telemetry.Pem

/-- What a section holds. Sections of any other label are passed over. -/
inductive Label where
  | certificate
  | publicKey
  | rsaPrivateKey
  | privateKey
  | ecPrivateKey
  | revocationList
  | certificateRequest
  | helloEncryption
  deriving DecidableEq

namespace Label

def title : Label → String
  | certificate => "CERTIFICATE"
  | publicKey => "PUBLIC KEY"
  | rsaPrivateKey => "RSA PRIVATE KEY"
  | privateKey => "PRIVATE KEY"
  | ecPrivateKey => "EC PRIVATE KEY"
  | revocationList => "X509 CRL"
  | certificateRequest => "CERTIFICATE REQUEST"
  | helloEncryption => "ECHCONFIG"

def all : List Label :=
  [certificate, publicKey, rsaPrivateKey, privateKey, ecPrivateKey, revocationList,
    certificateRequest, helloEncryption]

def ofTitle? (title : List UInt8) : Option Label :=
  all.find? fun l ↦ Utf8.encode l.title == title

def isPrivateKey : Label → Bool
  | rsaPrivateKey | privateKey | ecPrivateKey => true
  | _ => false

end Label

structure Section where
  label : Label
  content : List UInt8
  deriving DecidableEq

inductive Fault where
  | unclosed (label : List UInt8)
  | opening (line : List UInt8)
  | character (byte : UInt8)
  | earlyPadding
  | trailingPadding
  deriving DecidableEq

def Fault.message : Fault → String
  | unclosed label => "section end " ++ Text.quoted (Utf8.decodeLossy label) ++ " missing"
  | opening line => "illegal section start: " ++ Text.quoted (Utf8.decodeLossy line)
  | character byte => "InvalidCharacter(" ++ byte.toNat.repr ++ ")"
  | earlyPadding => "PrematurePadding"
  | trailingPadding => "InvalidTrailingPadding"

section Content

def isBlank (b : UInt8) : Bool := b == 32 || (9 ≤ b && b ≤ 13)

def place (b : UInt8) : Except Fault (Option Nat) :=
  if b = Base64.padding then .ok none
  else match Base64.value? b with
    | some n => .ok (some n)
    | none => .error (.character b)

def unpadded (places : List (Option Nat)) : Except Fault (List Nat) :=
  match places.mapM id with
  | some ns => .ok ns
  | none => .error .earlyPadding

/-- The values of the last four places or fewer. Padding is left out or fills the group. -/
def lastGroup (places : List (Option Nat)) : Except Fault (List Nat) :=
  let ns := (places.takeWhile (·.isSome)).filterMap id
  let whole := ns.length == places.length && ns.length != 1
  let filled := places.length == 4 && 2 ≤ ns.length && (places.drop ns.length).all (·.isNone)
  if whole || filled then .ok ns else .error .trailingPadding

/-- The values of eight places at a time. Padding in a block is found out when a symbol or more
padding follows the block. -/
def blocks (bs : List UInt8) : Except Fault (List Nat) := do
  if _ : 8 < bs.length then
    let places ← (bs.take 9).mapM place
    let ns ← unpadded (places.take 8)
    let more ← blocks (bs.drop 8)
    return ns ++ more
  else
    let places ← bs.mapM place
    if 4 < places.length then
      return (← unpadded (places.take 4)) ++ (← lastGroup (places.drop 4))
    else lastGroup places
termination_by bs.length
decreasing_by simp only [List.length_drop]; omega

def content (bs : List UInt8) : Except Fault (List UInt8) :=
  (blocks (bs.filter (!isBlank ·))).map Base64.ofValues

end Content

def lines : List UInt8 → List (List UInt8)
  | [] => []
  | b :: bs =>
    if b = 10 || b = 13 then [b] :: lines bs
    else match lines bs with
      | [] => [[b]]
      | line :: more => (b :: line) :: more

def opener : List UInt8 := Utf8.encode "-----BEGIN "
def dashes : List UInt8 := Utf8.encode "-----"

def isLineBlank (b : UInt8) : Bool := b == 10 || b == 13 || b == 32

def dashRun : List UInt8 → Nat × Nat
  | [] => (0, 0)
  | b :: bs =>
    let (reach, count) := dashRun bs
    if b = 45 then (reach + 1, count + 1)
    else if isLineBlank b && count != 0 then (reach + 1, count)
    else (0, 0)

def opened (line : List UInt8) : Except Fault (List UInt8) :=
  let backwards := line.reverse.dropWhile isLineBlank
  let (reach, count) := dashRun backwards
  if count = 5 then .ok ((backwards.drop reach).reverse.drop opener.length)
  else .error (.opening line)

structure Open where
  label : List UInt8
  body : List UInt8
  deriving DecidableEq

def closer (o : Open) : List UInt8 := Utf8.encode "-----END " ++ o.label ++ dashes

/-- What a line does: it opens a section, which keeps what has been collected before, or it closes
the one under way, or it goes on with it. -/
def step (current : Option Open) (line : List UInt8) :
    Except Fault (Option Open × Option Section) :=
  if opener.isPrefixOf line then do
    let label ← opened line
    return (some ⟨label, (current.map (·.body)).getD []⟩, none)
  else match current with
    | none => .ok (none, none)
    | some o =>
      if (closer o).isPrefixOf line then
        match Label.ofTitle? o.label with
        | none => .ok (none, none)
        | some label => (content o.body).map fun bytes ↦ (none, some ⟨label, bytes⟩)
      else .ok (some { o with body := o.body ++ line }, none)

def readLines : Option Open → List (List UInt8) → List Section × Option Fault
  | none, [] => ([], none)
  | some o, [] => ([], some (.unclosed o.label))
  | current, line :: rest =>
    match step current line with
    | .error f => ([], some f)
    | .ok (next, found) =>
      let (more, fault) := readLines next rest
      (found.toList ++ more, fault)

def read (bs : List UInt8) : List Section × Option Fault := readLines none (lines bs)

def certificates (bs : List UInt8) : Except Fault (List (List UInt8)) :=
  match read bs with
  | (_, some f) => .error f
  | (sections, none) => .ok ((sections.filter (·.label = .certificate)).map (·.content))

/-- The first private key, unless a fault comes before it. -/
def privateKey? (bs : List UInt8) : Except Fault (Option Section) :=
  match read bs with
  | (sections, fault) =>
    match sections.find? (·.label.isPrivateKey), fault with
    | some s, _ => .ok (some s)
    | none, some f => .error f
    | none, none => .ok none

end Telemetry.Pem
