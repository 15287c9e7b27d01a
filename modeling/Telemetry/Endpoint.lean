import Telemetry.Config.Exporter
import Telemetry.Signal
import Telemetry.Url.Parser

namespace Telemetry

inductive EndpointFault where
  | url (f : Url.Fault)
  | missingHost
  | unsupportedScheme
  deriving DecidableEq

def EndpointFault.message : EndpointFault → String
  | url f => f.message
  | missingHost => "missing host"
  | unsupportedScheme => "unsupported scheme"

namespace Endpoint

def hasSeparator : List Char → Bool
  | ':' :: '/' :: '/' :: _ => true
  | _ :: cs => hasSeparator cs
  | [] => false

/-- The trimmed endpoint with a scheme in front of it, unless it holds a separator. -/
def withScheme (c : ExporterConfig) : String :=
  let raw := Text.trim c.endpoint
  if hasSeparator raw.toList then raw
  else (if c.insecure then "http://" else "https://") ++ raw

def base (c : ExporterConfig) : Except EndpointFault Url := do
  let url ← (Url.parse (withScheme c)).mapError .url
  if url.host.isNone then throw .missingHost
  if url.scheme != "http".toList && url.scheme != "https".toList then throw .unsupportedScheme
  return url

/-- A URL whose path is that of the signal, unless it has one of its own. -/
def withSignalPath (k : Signal) (u : Url) : Url :=
  if u.path = [] || u.path = ['/'] then { u with path := k.path.toList } else u

def url (c : ExporterConfig) (k : Signal) : Except EndpointFault Url :=
  (base c).map (withSignalPath k)

end Endpoint

end Telemetry
