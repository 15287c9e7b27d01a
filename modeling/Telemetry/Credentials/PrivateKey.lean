import Telemetry.Crypto.Edwards
import Telemetry.Crypto.Rsa
import Telemetry.Crypto.Weierstrass
import Telemetry.Der
import Telemetry.Pem

namespace Telemetry.PrivateKey

open Der Crypto

section Algorithms

def curves : List (Element × Curve) :=
  [(⟨objectTag, [0x2A, 0x86, 0x48, 0xCE, 0x3D, 0x03, 0x01, 0x07]⟩, .p256),
    (⟨objectTag, [0x2B, 0x81, 0x04, 0x00, 0x22]⟩, .p384)]

def curveAlgorithm (name : Element) : Element :=
  sequence [⟨objectTag, [0x2A, 0x86, 0x48, 0xCE, 0x3D, 0x02, 0x01]⟩, name]

def rsaAlgorithm : Element :=
  sequence [⟨objectTag, [0x2A, 0x86, 0x48, 0x86, 0xF7, 0x0D, 0x01, 0x01, 0x01]⟩, ⟨nullTag, []⟩]

def edwardsAlgorithm : Element := sequence [⟨objectTag, [0x2B, 0x65, 0x70]⟩]

def withAlgorithm (algorithm : Element) (key : List UInt8) : List UInt8 :=
  (sequence [algorithm, bitString key]).encode

end Algorithms

def fields? (key : List UInt8) : Option (List Element) :=
  match elements? key with
  | some [whole] => whole.inside? sequenceTag
  | _ => none

/-- The public key of a key on a curve. The name of the curve may be left out, the public point
may not. -/
def curvePublic? (key : List UInt8) (name : Element) (c : Curve) : Option (List UInt8) := do
  let (secret, rest) ← match ← fields? key with
    | version :: secret :: rest =>
      if version = ⟨integerTag, [1]⟩ && secret.tag = octetStringTag then some (secret.body, rest)
      else none
    | _ => none
  let holder ← match rest with
    | [named, holder] => if named.inside? (ownTag 0) = some [name] then some holder else none
    | [holder] => some holder
    | _ => none
  let point ← match ← holder.inside? (ownTag 1) with
    | [string] => string.wholeBytes?
    | _ => none
  if secret.length = c.size && c.public? (number secret) = some point then
    return withAlgorithm (curveAlgorithm name) point
  else none

def rsaPublic? (key : List UInt8) : Option (List UInt8) := do
  let fields ← fields? key
  match fields, ← fields.mapM (·.natural?) with
  | [_, modulus, exponent, _, _, _, _, _, _], [version, n, e, d, p, q, dp, dq, qi] =>
    if version = 0 && (Rsa.Key.mk n e d p q dp dq qi).isSound then
      return withAlgorithm rsaAlgorithm (sequence [modulus, exponent]).encode
    else none
  | _, _ => none

def edwardsPublic? (key : List UInt8) : Option (List UInt8) :=
  match elements? key with
  | some [seed] =>
    if seed.tag = octetStringTag && seed.body.length = 32 then some (Edwards.publicKey seed.body)
    else none
  | _ => none

section Wrapped

/-- A key in the general form: its algorithm, the key in the form of that algorithm, and the public
key, which the second version of the form carries. -/
structure Wrapped where
  algorithm : Element
  inner : List UInt8
  publicKey : Option (List UInt8)
  deriving DecidableEq

def carried? (e : Element) : Option (List UInt8) :=
  if e.tag = 0x81 then Element.wholeBytes? ⟨bitStringTag, e.body⟩
  else match e.inside? (ownTag 1) with
    | some [string] => string.wholeBytes?
    | _ => none

def unwrap? (key : List UInt8) : Option Wrapped := do
  match ← fields? key with
  | version :: algorithm :: inner :: more =>
    guard (algorithm.tag = sequenceTag && inner.tag = octetStringTag)
    let rest := match more with
      | e :: es => if e.tag = ownTag 0 then es else more
      | [] => []
    match rest with
    | [] =>
      guard (version = ⟨integerTag, [0]⟩)
      return ⟨algorithm, inner.body, none⟩
    | [e] =>
      guard (version = ⟨integerTag, [1]⟩)
      return ⟨algorithm, inner.body, some (← carried? e)⟩
    | _ => none
  | _ => none

/-- The public key of a key in the general form. Only keys on the Edwards curve are taken in the
second version of it. -/
def Wrapped.public? (w : Wrapped) : Option (List UInt8) :=
  if w.algorithm = edwardsAlgorithm then do
    let own ← edwardsPublic? w.inner
    guard (w.publicKey.all (· == own))
    return withAlgorithm edwardsAlgorithm own
  else if w.publicKey.isSome then none
  else if w.algorithm = rsaAlgorithm then rsaPublic? w.inner
  else match curves.find? fun c ↦ curveAlgorithm c.1 = w.algorithm with
    | some (name, c) => curvePublic? w.inner name c
    | none => none

end Wrapped

def public? (s : Pem.Section) : Option (List UInt8) :=
  match s.label with
  | .rsaPrivateKey => rsaPublic? s.content
  | .ecPrivateKey => curves.findSome? fun c ↦ curvePublic? s.content c.1 c.2
  | .privateKey => (unwrap? s.content).bind Wrapped.public?
  | _ => none

end Telemetry.PrivateKey
