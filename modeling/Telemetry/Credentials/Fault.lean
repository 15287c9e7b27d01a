import Telemetry.Base64
import Telemetry.Pem

namespace Telemetry.Credentials

inductive Artifact where
  | certificate
  | key
  | ca
  | keyPair
  deriving DecidableEq

def Artifact.title : Artifact → String
  | certificate => "client certificate"
  | key => "client key"
  | ca => "CA certificate"
  | keyPair => "certificate/key pair"

inductive Unreadable where
  | pem (f : Pem.Fault)
  | noCertificate
  | noPrivateKey
  | other (reason : String)
  deriving DecidableEq

def Unreadable.reason : Unreadable → String
  | pem f => f.message
  | noCertificate => "no PEM certificate found"
  | noPrivateKey => "no PEM private key found"
  | other reason => reason

inductive Mismatch where
  | pem
  | certificate
  | key
  | foreignKey
  | other (reason : String)
  deriving DecidableEq

def Mismatch.reason : Mismatch → String
  | pem => "neither a certificate chain nor its key"
  | certificate => "the certificate cannot be read"
  | key => "the key cannot be used"
  | foreignKey => "the key belongs to another certificate"
  | other reason => reason

inductive Fault where
  | undecodable (artifact : Artifact) (cause : Base64.Fault)
  | unreadable (artifact : Artifact) (cause : Unreadable)
  | missing (wanted present : Artifact)
  | mismatched (cause : Mismatch)
  deriving DecidableEq

namespace Fault

def artifact : Fault → Artifact
  | undecodable a _ => a
  | unreadable a _ => a
  | missing wanted _ => wanted
  | mismatched _ => .keyPair

def mismatchTitle : String := "failed to load TLS " ++ Artifact.keyPair.title

def message : Fault → String
  | undecodable a cause => "failed to decode TLS " ++ a.title ++ ": " ++ cause.message
  | unreadable a cause => "failed to parse TLS " ++ a.title ++ ": " ++ cause.reason
  | missing wanted present =>
    "TLS " ++ wanted.title ++ " is required when a " ++ present.title ++ " is configured"
  | mismatched cause => mismatchTitle ++ ": " ++ cause.reason

def sources : Fault → List String
  | undecodable _ cause => [cause.message]
  | _ => []

end Fault

end Telemetry.Credentials
