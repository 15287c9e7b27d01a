import Telemetry.Credentials.Material

namespace Telemetry.Export

structure Client where
  identity : Option Credentials.Identity := none
  trustsBuiltIn : Bool := true
  roots : List (List UInt8) := []
  deriving DecidableEq

/-- A client with these credentials. Certificates to trust replace the built-in ones. -/
def Client.withMaterial (m : Credentials.Material) (c : Client) :
    Except Credentials.Fault Client := do
  let identity ← match m.identity with
    | none => pure c.identity
    | some pem => ((Credentials.Identity.ofPem pem).mapError .mismatched).map some
  if m.roots.isEmpty then return { c with identity }
  else return { identity, trustsBuiltIn := false, roots := c.roots ++ m.roots }

def Client.isMakeable (c : Client) : Bool :=
  c.identity.all (·.check.isOk) && c.roots.all fun der ↦ (Certificate.anchorOfDer? der).isSome

end Telemetry.Export
