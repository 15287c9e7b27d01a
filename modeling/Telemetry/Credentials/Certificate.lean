import Telemetry.Der

namespace Telemetry

structure Certificate where
  publicKey : List UInt8
  deriving DecidableEq

namespace Certificate

open Der

structure Extension where
  id : List UInt8
  critical : Bool
  value : List UInt8
  deriving DecidableEq

namespace Extension

def ofElement? (e : Element) : Option Extension :=
  let make (id value : Element) (critical : Bool) : Option Extension :=
    if id.tag == objectTag && value.tag == octetStringTag then
      some ⟨id.body, critical, value.body⟩
    else none
  match e.inside? sequenceTag with
  | some [id, value] => make id value false
  | some [id, critical, value] =>
    if critical = ⟨booleanTag, [0xFF]⟩ then make id value true
    else if critical = ⟨booleanTag, [0]⟩ then make id value false
    else none
  | _ => none

def keyUsage : List UInt8 := [0x55, 0x1D, 15]

def readable : List (List UInt8) :=
  keyUsage :: [17, 19, 30, 31, 37].map fun n ↦ [0x55, 0x1D, n]

def isRead (x : Extension) : Bool := readable.contains x.id

/-- The value of an extension that is read is one sequence, except for the usage of the key. -/
def isWellFormed (x : Extension) : Bool :=
  x.id == keyUsage || ((elements? x.value).map (·.map (·.tag)) == some [sequenceTag])

end Extension

/-- Whether the extensions allow for the use of a certificate: those that are read are well formed
and stand there once. Others are passed over, unless they are critical and the reading is strict. -/
def areBearable (strict : Bool) (es : List Extension) : Bool :=
  let (read, other) := es.partition Extension.isRead
  read.all Extension.isWellFormed && (read.map (·.id)).eraseDups.length == read.length &&
    !(strict && other.any (·.critical))

def extensions? : List Element → Option (List Extension)
  | [] => some []
  | [e] => match e.inside? (ownTag 3) with
    | some [list] => (list.inside? sequenceTag).bind (·.mapM Extension.ofElement?)
    | _ => none
  | _ => none

def parts? (der : List UInt8) : Option (List Element × Element) :=
  match elements? der with
  | some [whole] => match whole.inside? sequenceTag with
    | some [body, algorithm, signature] =>
      if whole.body.length < 65535 && algorithm.tag == sequenceTag &&
          signature.wholeBytes?.isSome then
        (body.inside? sequenceTag).map fun fields ↦ (fields, algorithm)
      else none
    | _ => none
  | _ => none

def ofFields? (serial signature issuer validity subject key : Element) : Option Certificate :=
  if serial.tag = integerTag &&
      [signature, issuer, validity, subject, key].all (·.tag == sequenceTag) then
    some ⟨key.encode⟩
  else none

def ofVersionThree? (strict : Bool) (algorithm : Element) : List Element → Option Certificate
  | version :: serial :: signature :: issuer :: validity :: subject :: key :: rest =>
    if version.inside? (ownTag 0) = some [⟨integerTag, [2]⟩] && signature = algorithm &&
        (extensions? rest).any (areBearable strict) then
      ofFields? serial signature issuer validity subject key
    else none
  | _ => none

def ofDer? (der : List UInt8) : Option Certificate := do
  let (fields, algorithm) ← parts? der
  ofVersionThree? true algorithm fields

/-- A certificate to be trusted, which may also be of version one. Critical extensions that are not
read are borne with. -/
def anchorOfDer? (der : List UInt8) : Option Certificate := do
  match ← parts? der with
  | ([serial, signature, issuer, validity, subject, key], _) =>
    ofFields? serial signature issuer validity subject key
  | (fields, algorithm) => ofVersionThree? false algorithm fields

end Certificate

end Telemetry
