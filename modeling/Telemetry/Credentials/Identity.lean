import Telemetry.Credentials.Certificate
import Telemetry.Credentials.Fault
import Telemetry.Credentials.PrivateKey

namespace Telemetry.Credentials

structure Identity where
  chain : List (List UInt8)
  key : Pem.Section
  deriving DecidableEq

namespace Identity

/-- The identity in a PEM text that holds certificates and keys only, of which the last key
counts. -/
def ofPem (pem : List UInt8) : Except Mismatch Identity :=
  match Pem.read pem with
  | (_, some _) => .error .pem
  | (sections, none) =>
    let chain := sections.filter (·.label = .certificate)
    let keys := sections.filter (·.label.isPrivateKey)
    match keys.getLast? with
    | none => .error .pem
    | some key =>
      if chain.isEmpty || chain.length + keys.length ≠ sections.length then .error .pem
      else .ok ⟨chain.map (·.content), key⟩

def check (i : Identity) : Except Mismatch Unit :=
  match PrivateKey.public? i.key, i.chain.head? >>= Certificate.ofDer? with
  | none, _ => .error .key
  | _, none => .error .certificate
  | some own, some leaf => if leaf.publicKey = own then .ok () else .error .foreignKey

end Identity

end Telemetry.Credentials
