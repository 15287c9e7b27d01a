import Telemetry.Config.Exporter

namespace Telemetry

/-- A computation that may ask for the values of names and may fail. -/
inductive Query (ε α : Type) where
  | done (result : Except ε α)
  | ask (name : String) (next : Option String → Query ε α)

namespace Query

variable {ε α β : Type}

def bind : Query ε α → (α → Query ε β) → Query ε β
  | done (.ok a), f => f a
  | done (.error e), _ => done (.error e)
  | ask name next, f => ask name fun v ↦ (next v).bind f

instance : Monad (Query ε) where
  pure a := done (.ok a)
  bind := Query.bind

def run (lookup : String → Option String) : Query ε α → List String × Except ε α
  | done result => ([], result)
  | ask name next =>
    let (names, result) := (next (lookup name)).run lookup
    (name :: names, result)

end Query

namespace ExporterConfig

def boolean (key value : String) : Except ConfigFault Bool :=
  match Text.lower (Text.trim value) with
  | "true" => .ok true
  | "1" => .ok true
  | "yes" => .ok true
  | "false" => .ok false
  | "0" => .ok false
  | "no" => .ok false
  | "" => .ok false
  | other => .error (.notBoolean key other)

def milliseconds (key value : String) : Except ConfigFault Duration :=
  match Digits.unsigned? (Nat.pow 2 64) (Text.trim value).toList with
  | some n => .ok (.ofMillis n)
  | none => .error (.notMilliseconds key value)

structure Setting where
  name : String
  change : String → Except ConfigFault (ExporterConfig → ExporterConfig)

def samplerName : String := "OTEL_TRACES_SAMPLER"
def samplerArgument : String := "OTEL_TRACES_SAMPLER_ARG"

def settings : List Setting :=
  [⟨"OTEL_SERVICE_NAME", fun v ↦ .ok fun c ↦ { c with serviceName := v }⟩,
    ⟨"DEPLOYMENT_ENVIRONMENT", fun v ↦ .ok fun c ↦ { c with environment := v }⟩,
    ⟨"OTEL_EXPORTER_OTLP_ENDPOINT", fun v ↦ .ok fun c ↦ { c with endpoint := Text.trim v }⟩,
    ⟨"OTEL_EXPORTER_OTLP_INSECURE", fun v ↦
      (boolean "OTEL_EXPORTER_OTLP_INSECURE" v).map fun b c ↦ { c with insecure := b }⟩,
    ⟨"OTEL_EXPORTER_OTLP_TLS_CERT", fun v ↦ .ok fun c ↦ { c with tlsCert := some v }⟩,
    ⟨"OTEL_EXPORTER_OTLP_TLS_KEY", fun v ↦ .ok fun c ↦ { c with tlsKey := some v }⟩,
    ⟨"OTEL_EXPORTER_OTLP_TLS_CA", fun v ↦ .ok fun c ↦ { c with tlsCa := some v }⟩,
    ⟨"OTEL_BSP_SCHEDULE_DELAY", fun v ↦
      (milliseconds "OTEL_BSP_SCHEDULE_DELAY" v).map fun d c ↦ { c with batchTimeout := d }⟩,
    ⟨"OTEL_METRIC_EXPORT_INTERVAL", fun v ↦
      (milliseconds "OTEL_METRIC_EXPORT_INTERVAL" v).map fun d c ↦
        { c with metricInterval := d }⟩]

def Setting.apply (c : ExporterConfig) (s : Setting) : Query ConfigFault ExporterConfig :=
  .ask s.name fun
    | none => .done (.ok c)
    | some value => .done ((s.change value).map fun change ↦ change c)

/-- The sampler, whose argument is asked for only when its name is set. -/
def sampler (c : ExporterConfig) : Query ConfigFault ExporterConfig :=
  .ask samplerName fun
    | none => .done (.ok c)
    | some name => .ask samplerArgument fun arg ↦ .done <|
      match Sampling.parse? name arg with
      | some policy => .ok { c with sampling := some policy }
      | none => .error (.unsupportedSampler samplerName name arg)

def query : Query ConfigFault ExporterConfig :=
  settings.foldlM Setting.apply {} >>= sampler

def ofLookup (lookup : String → Option String) : Except ConfigFault ExporterConfig :=
  (query.run lookup).2

end ExporterConfig

end Telemetry
