import Telemetry.Json.Decoder
import Telemetry.Text.Lowercase

namespace Telemetry

inductive LogFormat where
  | json
  | pretty
  deriving DecidableEq

namespace LogFormat

def name : LogFormat → String
  | json => "json"
  | pretty => "pretty"

def title : LogFormat → String
  | json => "Json"
  | pretty => "Pretty"

def parse? (s : String) : Option LogFormat :=
  match Text.lower s with
  | "json" => some json
  | "pretty" => some pretty
  | _ => none

def decoder [Json.Rounding] : Json.Decoder LogFormat :=
  .choice [⟨"json", .none json⟩, ⟨"pretty", .none pretty⟩]

end LogFormat

structure LoggingConfig where
  serviceName : String := ""
  environment : String := ""
  level : String := "info"
  format : Option LogFormat := none
  deriving DecidableEq

namespace LoggingConfig

def new (serviceName : String) : LoggingConfig := { serviceName }

def withEnvironment (environment : String) (c : LoggingConfig) : LoggingConfig :=
  { c with environment }

def withLevel (level : String) (c : LoggingConfig) : LoggingConfig :=
  { c with level }

def withFormat (format : LogFormat) (c : LoggingConfig) : LoggingConfig :=
  { c with format := some format }

def isDevelopment (c : LoggingConfig) : Bool :=
  ["development", "dev", "local"].contains (Text.lower c.environment)

def effectiveFormat (c : LoggingConfig) : LogFormat :=
  c.format.getD (if c.isDevelopment then .pretty else .json)

open Json (Decoder)

def fields [Json.Rounding] : List (Json.Field LoggingConfig) :=
  [⟨"service_name", Decoder.text.map fun v c ↦ { c with serviceName := v }⟩,
    ⟨"environment", Decoder.text.map fun v c ↦ { c with environment := v }⟩,
    ⟨"level", Decoder.text.map fun v c ↦ { c with level := v }⟩,
    ⟨"format", LogFormat.decoder.nullable.map fun v c ↦ { c with format := v }⟩]

def decoder [Json.Rounding] : Decoder LoggingConfig :=
  .record "struct LoggingConfig" {} fields

end LoggingConfig

end Telemetry
