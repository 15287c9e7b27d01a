namespace Telemetry

inductive Signal where
  | traces
  | metrics
  | logs
  deriving DecidableEq, Inhabited

namespace Signal

def name : Signal → String
  | traces => "traces"
  | metrics => "metrics"
  | logs => "logs"

def title : Signal → String
  | traces => "Traces"
  | metrics => "Metrics"
  | logs => "Logs"

def path : Signal → String
  | traces => "/v1/traces"
  | metrics => "/v1/metrics"
  | logs => "/v1/logs"

def all : List Signal := [traces, metrics, logs]

def ofName? (s : String) : Option Signal :=
  all.find? fun k ↦ k.name == s

end Signal

end Telemetry
