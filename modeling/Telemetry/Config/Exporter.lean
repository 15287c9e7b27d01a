import Telemetry.Config.Sampling
import Telemetry.Duration

namespace Telemetry

inductive ConfigFault where
  | blankServiceName
  | notBoolean (name value : String)
  | notMilliseconds (name value : String)
  | unsupportedSampler (name sampler : String) (arg : Option String)
  | other (reason : String)
  deriving DecidableEq

def ConfigFault.reason : ConfigFault → String
  | blankServiceName => "service name must not be empty"
  | notBoolean name value => name ++ ": expected a boolean, got '" ++ value ++ "'"
  | notMilliseconds name value => name ++ ": expected milliseconds, got '" ++ value ++ "'"
  | unsupportedSampler name sampler arg =>
    name ++ ": unsupported sampler '" ++ sampler ++ "'" ++
      (match arg with
      | some a => " with argument '" ++ a ++ "'"
      | none => "")
  | other reason => reason

structure ExporterConfig where
  serviceName : String := ""
  environment : String := ""
  endpoint : String := ""
  insecure : Bool := false
  tlsCert : Option String := none
  tlsKey : Option String := none
  tlsCa : Option String := none
  batchTimeout : Duration := .ofSeconds 5
  metricInterval : Duration := .ofSeconds 10
  sampling : Option Sampling := none
  deriving DecidableEq

namespace ExporterConfig

def new (serviceName : String) : ExporterConfig := { serviceName }

def withEnvironment (environment : String) (c : ExporterConfig) : ExporterConfig :=
  { c with environment }

def withEndpoint (endpoint : String) (c : ExporterConfig) : ExporterConfig :=
  { c with endpoint }

def withInsecure (insecure : Bool) (c : ExporterConfig) : ExporterConfig :=
  { c with insecure }

def withClientIdentity (cert key : String) (c : ExporterConfig) : ExporterConfig :=
  { c with tlsCert := some cert, tlsKey := some key }

def withCa (ca : String) (c : ExporterConfig) : ExporterConfig :=
  { c with tlsCa := some ca }

def withBatchTimeout (batchTimeout : Duration) (c : ExporterConfig) : ExporterConfig :=
  { c with batchTimeout }

def withMetricInterval (metricInterval : Duration) (c : ExporterConfig) : ExporterConfig :=
  { c with metricInterval }

def withSampling (sampling : Sampling) (c : ExporterConfig) : ExporterConfig :=
  { c with sampling := some sampling }

def isDisabled (c : ExporterConfig) : Bool := Text.isBlankText c.endpoint

def present (value : Option String) : Option String :=
  (value.map Text.trim).filter (!·.isEmpty)

def cert (c : ExporterConfig) : Option String := present c.tlsCert
def key (c : ExporterConfig) : Option String := present c.tlsKey
def ca (c : ExporterConfig) : Option String := present c.tlsCa

def hasTlsMaterial (c : ExporterConfig) : Bool :=
  c.cert.isSome || c.key.isSome || c.ca.isSome

def effectiveBatchTimeout (c : ExporterConfig) : Duration :=
  if c.batchTimeout = .zero then .ofSeconds 5 else c.batchTimeout

def effectiveMetricInterval (c : ExporterConfig) : Duration :=
  if c.metricInterval = .zero then .ofSeconds 10 else c.metricInterval

def validate (c : ExporterConfig) : Except ConfigFault Unit :=
  if Text.isBlankText c.serviceName then .error .blankServiceName else .ok ()

section Decoding

open Json (Decoder)

variable [Json.Rounding]

def millis : Decoder Duration := Decoder.word.map .ofMillis

/-- The fields in the order in which an array gives them. -/
def fields : List (Json.Field ExporterConfig) :=
  [⟨"service_name", Decoder.text.map fun v c ↦ { c with serviceName := v }⟩,
    ⟨"environment", Decoder.text.map fun v c ↦ { c with environment := v }⟩,
    ⟨"endpoint", Decoder.text.map fun v c ↦ { c with endpoint := v }⟩,
    ⟨"insecure", Decoder.flag.map fun v c ↦ { c with insecure := v }⟩,
    ⟨"tls_cert", Decoder.text.nullable.map fun v c ↦ { c with tlsCert := v }⟩,
    ⟨"tls_key", Decoder.text.nullable.map fun v c ↦ { c with tlsKey := v }⟩,
    ⟨"tls_ca", Decoder.text.nullable.map fun v c ↦ { c with tlsCa := v }⟩,
    ⟨"batch_timeout_ms", millis.map fun v c ↦ { c with batchTimeout := v }⟩,
    ⟨"metric_interval_ms", millis.map fun v c ↦ { c with metricInterval := v }⟩,
    ⟨"sampling", Sampling.decoder.nullable.map fun v c ↦ { c with sampling := v }⟩]

def decoder : Decoder ExporterConfig :=
  Decoder.record "struct ExporterConfig" {} fields

end Decoding

end ExporterConfig

end Telemetry
