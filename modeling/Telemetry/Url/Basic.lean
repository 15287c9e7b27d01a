import Telemetry.Url.Address

namespace Telemetry

namespace Url

inductive Host where
  | domain (name : List Char)
  | ipv4 (address : Nat)
  | ipv6 (words : List Nat)
  deriving DecidableEq

def Host.render : Host → List Char
  | .domain name => name
  | .ipv4 address => Ipv4.render address
  | .ipv6 words => '[' :: Ipv6.render words ++ [']']

inductive Fault where
  | emptyHost
  | invalidPort
  | invalidIpv4
  | invalidIpv6
  | invalidDomain
  | forbiddenHostCharacter
  | relativeWithoutBase
  deriving DecidableEq

def Fault.message : Fault → String
  | emptyHost => "empty host"
  | invalidPort => "invalid port number"
  | invalidIpv4 => "invalid IPv4 address"
  | invalidIpv6 => "invalid IPv6 address"
  | invalidDomain => "invalid international domain name"
  | forbiddenHostCharacter => "invalid domain character"
  | relativeWithoutBase => "relative URL without a base"

/-- The schemes whose URLs have an authority whatever follows them, with their default ports. -/
def specialPorts : List (List Char × Nat) :=
  [("http".toList, 80), ("https".toList, 443), ("ws".toList, 80), ("wss".toList, 443),
    ("ftp".toList, 21)]

def defaultPort? (scheme : List Char) : Option Nat := specialPorts.lookup scheme

end Url

structure Url where
  scheme : List Char
  username : List Char := []
  password : Option (List Char) := none
  host : Option Url.Host := none
  port : Option Nat := none
  path : List Char
  query : Option (List Char) := none
  fragment : Option (List Char) := none
  deriving DecidableEq

namespace Url

def userinfo (u : Url) : List Char :=
  match u.username, u.password with
  | [], none => []
  | name, none => name ++ ['@']
  | name, some word => name ++ ':' :: word ++ ['@']

def authority (u : Url) : List Char :=
  match u.host with
  | none => []
  | some h => ['/', '/'] ++ u.userinfo ++ h.render ++
      (match u.port with
      | none => []
      | some p => ':' :: Digits.ofNat p)

def render (u : Url) : String :=
  String.ofList (u.scheme ++ ':' :: u.authority ++ u.path ++
    (match u.query with
    | none => []
    | some q => '?' :: q) ++
    (match u.fragment with
    | none => []
    | some f => '#' :: f))

end Url

end Telemetry
