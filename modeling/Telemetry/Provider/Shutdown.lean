import Telemetry.Duration
import Telemetry.Signal

namespace Telemetry

inductive ShutdownError where
  | failed (signal : Signal) (reason : String)
  | timedOut (signal : Signal) (after : Duration)
  deriving DecidableEq

namespace ShutdownError

def signal : ShutdownError → Signal
  | failed k _ => k
  | timedOut k _ => k

def message : ShutdownError → String
  | failed k reason => k.name ++ " provider shutdown failed: " ++ reason
  | timedOut k after => k.name ++ " provider shutdown timed out after " ++ after.text

end ShutdownError

end Telemetry
