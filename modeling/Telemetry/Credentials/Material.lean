import Telemetry.Config.Exporter
import Telemetry.Credentials.Identity

namespace Telemetry.Credentials

def decode (a : Artifact) (value : String) : Except Fault (List UInt8) :=
  (Base64.decode (Utf8.encode (Text.withoutBlanks value))).mapError (.undecodable a)

def decodeOptional (a : Artifact) : Option String → Except Fault (Option (List UInt8))
  | none => .ok none
  | some value => (decode a value).map some

def certificates (a : Artifact) (pem : List UInt8) : Except Fault (List (List UInt8)) :=
  match Pem.certificates pem with
  | .error f => .error (.unreadable a (.pem f))
  | .ok [] => .error (.unreadable a .noCertificate)
  | .ok certs => .ok certs

def joined (cert key : List UInt8) : List UInt8 :=
  (if cert.getLast? = some 10 then cert else cert ++ [10]) ++ key

def identityPem (cert key : List UInt8) : Except Fault (List UInt8) := do
  let _ ← certificates .certificate cert
  match Pem.privateKey? key with
  | .error f => throw (.unreadable .key (.pem f))
  | .ok none => throw (.unreadable .key .noPrivateKey)
  | .ok (some _) => pure ()
  ((Identity.ofPem (joined cert key)).bind (·.check)).mapError .mismatched
  return joined cert key

structure Material where
  identity : Option (List UInt8)
  roots : List (List UInt8)
  deriving DecidableEq

namespace Material

def identityOf : Option (List UInt8) → Option (List UInt8) → Except Fault (Option (List UInt8))
  | some cert, some key => (identityPem cert key).map some
  | some _, none => .error (.missing .key .certificate)
  | none, some _ => .error (.missing .certificate .key)
  | none, none => .ok none

def rootsOf : Option (List UInt8) → Except Fault (List (List UInt8))
  | some ca => certificates .ca ca
  | none => .ok []

/-- The credentials of a configuration, if it has any. All artifacts are decoded before one of them
is read. -/
def ofConfig (c : ExporterConfig) : Except Fault (Option Material) := do
  if !c.hasTlsMaterial then return none
  let cert ← decodeOptional .certificate c.cert
  let key ← decodeOptional .key c.key
  let ca ← decodeOptional .ca c.ca
  let identity ← identityOf cert key
  let roots ← rootsOf ca
  return some ⟨identity, roots⟩

def hasIdentity (m : Material) : Bool := m.identity.isSome

def debug (m : Material) : String :=
  "TlsMaterial \x7b identity: " ++ (if m.hasIdentity then "true" else "false") ++ ", roots: " ++
    m.roots.length.repr ++ " \x7d"

end Material

end Telemetry.Credentials
