import Telemetry.Text.Blank
import Telemetry.Trace.Carrier
import Telemetry.Trace.Context

namespace Telemetry.TraceParent

def number? (bound : Nat) (cs : List Char) : Option Nat :=
  let ds := match cs with
    | '+' :: rest => rest
    | _ => cs
  (Hex.value? ds).filter (· < bound)

def id? (width : Nat) (cs : List Char) : Option (BitVec width) :=
  if cs.any fun c ↦ 'A' ≤ c && c ≤ 'Z' then none
  else (number? (Nat.pow 2 width) cs).map (BitVec.ofNat width)

/-- The largest version that can be understood. A newer one may have more fields. -/
def lastVersion : Nat := 254

/-- Reads a header. Only the lowest flag is kept, and version zero knows two flags only. -/
def parse? (header : String) : Option SpanContext :=
  match Text.splitEnded '-' (Text.trimChars header.toList) with
  | version :: trace :: span :: flags :: more => do
    let version ← number? 256 version
    if lastVersion < version || (version == 0 && !more.isEmpty) then none
    let traceId ← id? 128 trace
    let spanId ← id? 64 span
    let flags ← number? 256 flags
    if version == 0 && 2 < flags then none
    return { traceId, spanId, flags := UInt8.ofNat (flags % 2), remote := true }
  | _ => none

def render (s : SpanContext) : String :=
  "00-" ++ s.traceText ++ "-" ++ s.spanText ++ "-" ++ (if s.sampled then "01" else "00")

end Telemetry.TraceParent

namespace Telemetry

variable {γ : Type} [Carrier γ]

inductive Propagator where
  | none
  | traceContext
  deriving DecidableEq

namespace Propagator

def parentKey : String := "traceparent"
def stateKey : String := "tracestate"

/-- The context that a carrier brings, if it is a valid one. A bad list of entries counts as an
empty one. -/
def extract (carrier : γ) : Propagator → Option SpanContext
  | .none => .none
  | .traceContext => do
    let parent ← Carrier.get? carrier parentKey >>= TraceParent.parse?
    let state := ((Carrier.get? carrier stateKey).bind TraceState.parse?).getD {}
    if parent.isValid then return { parent with state } else .none

def inject (s : SpanContext) (carrier : γ) : Propagator → γ
  | .none => carrier
  | .traceContext =>
    if s.isValid then
      Carrier.set (Carrier.set carrier parentKey (TraceParent.render s)) stateKey s.state.render
    else carrier

end Propagator

end Telemetry
