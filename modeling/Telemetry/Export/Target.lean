import Telemetry.Url.Basic

namespace Telemetry.Export

inductive Refusal where
  | length
  | character
  deriving DecidableEq

def Refusal.reason : Refusal → String
  | length => "uri too long"
  | character => "invalid uri character"

def longestTarget : Nat := 65534

/-- Whether a character of a host has a place in a request. Quotes, backticks and braces have
none. -/
def isSendable (c : Char) : Bool :=
  !(['\x22', '\x60', '\x7b', '\x7d'] : List Char).contains c

def refusal? (u : Url) : Option Refusal :=
  if longestTarget < u.render.utf8ByteSize then some .length
  else if u.host.any (!·.render.all isSendable) then some .character
  else none

end Telemetry.Export
