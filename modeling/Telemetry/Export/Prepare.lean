import Telemetry.Event
import Telemetry.Export.Client
import Telemetry.SetupError

namespace Telemetry.Export

def subject (c : ExporterConfig) (k : Signal) : List (String × String) :=
  [("signal", k.name), ("service", c.serviceName)]

/-- Whether a configuration turns export off. Credentials without an endpoint are usually a mistake
and are warned of. -/
def isDisabled (c : ExporterConfig) (k : Signal) : Reporting Bool := do
  if c.isDisabled then
    if c.hasTlsMaterial then
      report (.named "credentials_ignored" .warn
        "TLS material configured without an endpoint, export stays disabled" (subject c k))
    report (.named "export_disabled" .debug "no OTLP endpoint configured" (subject c k))
  return c.isDisabled

def applied (m : Credentials.Material) (k : Signal) : Event :=
  ⟨.debug, "applying exporter TLS material", [("signal", .shown k.name),
    ("client_identity", .flag m.hasIdentity), ("ca_certificates", .count m.roots.length)]⟩

def httpClient (c : ExporterConfig) (k : Signal) : Reporting (Except SetupError Client) := do
  match Credentials.Material.ofConfig c with
  | .error f => return .error (.credentials f)
  | .ok none => return .ok {}
  | .ok (some m) =>
    report (applied m k)
    match Client.withMaterial m {} with
    | .error f => return .error (.credentials f)
    | .ok client =>
      return if client.isMakeable then .ok client else .error (.exporter k .client)

def endpoint (c : ExporterConfig) (k : Signal) : Except SetupError Url :=
  (Endpoint.url c k).mapError fun f ↦ .exporter k (.endpoint (Text.trim c.endpoint) f)

def prepare (c : ExporterConfig) (k : Signal) : Reporting (Except SetupError (Url × Client)) := do
  match c.validate, endpoint c k with
  | .error f, _ => return .error (.config f)
  | .ok (), .error e => return .error e
  | .ok (), .ok url => return (← httpClient c k).map fun client ↦ (url, client)

end Telemetry.Export
