import Telemetry.Config.Exporter
import Telemetry.Keyed
import Telemetry.Text.Digits
import Telemetry.Text.Split

namespace Telemetry

structure Machine where
  hostName : Option String := none
  arch : String
  system : String
  pid : Nat
  executableName : Option String := none
  executablePath : Option String := none
  libraryVersion : String

structure Resource where
  serviceName : String
  environment : String
  attributes : List (String × String)
  deriving DecidableEq

namespace Resource

abbrev Attributes := List (String × String)

/-- An entry `key=value` with blanks around both left out. A second separator makes it void. -/
def entry? (cs : List Char) : Option (String × String) :=
  match Text.splitFirst '=' cs with
  | none => none
  | some (key, value) =>
    if value.contains '=' then none
    else some (String.ofList (Text.trimChars key), String.ofList (Text.trimChars value))

def userAttributes (vars : String → Option String) : Attributes :=
  match vars "OTEL_RESOURCE_ATTRIBUTES" with
  | none => []
  | some text => Keyed.merge [] ((Text.splitOn ',' text.toList).filterMap entry?)

def libraryAttributes (m : Machine) : Attributes :=
  [("telemetry.sdk.name", "opentelemetry"), ("telemetry.sdk.language", "rust"),
    ("telemetry.sdk.version", m.libraryVersion)]

def archName : String → String
  | "x86_64" => "amd64"
  | "aarch64" => "arm64"
  | "arm" => "arm32"
  | "powerpc64" => "ppc64"
  | arch => arch

def hostAttributes (m : Machine) : Attributes :=
  [("host.arch", archName m.arch), ("os.type", m.system)] ++
    m.hostName.toList.map (("host.name", ·))

def owner? (vars : String → Option String) : Option String :=
  ["USER", "USERNAME"].findSome? fun name ↦ (vars name).filter (!·.isEmpty)

def processAttributes (m : Machine) (vars : String → Option String) : Attributes :=
  [("process.pid", m.pid.repr), ("process.runtime.name", "rust")] ++
    m.executableName.toList.map (("process.executable.name", ·)) ++
    m.executablePath.toList.map (("process.executable.path", ·)) ++
    (owner? vars).toList.map (("process.owner", ·))

def configAttributes (c : ExporterConfig) : Attributes :=
  [("service.name", c.serviceName), ("deployment.environment", c.environment)]

/-- The identity of a service. The library's own attributes give way to those of the user, these to
the facts about machine and process, and all of them to the configuration. -/
def describe (c : ExporterConfig) (m : Machine) (vars : String → Option String) : Resource :=
  { serviceName := c.serviceName
    environment := c.environment
    attributes :=
      Keyed.merge (Keyed.merge (libraryAttributes m) (userAttributes vars))
        (configAttributes c ++ hostAttributes m ++ processAttributes m vars) }

def get? (r : Resource) (key : String) : Option String := Keyed.get? key r.attributes

def size (r : Resource) : Nat := r.attributes.length

end Resource

end Telemetry
