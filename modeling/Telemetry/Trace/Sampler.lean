import Telemetry.Config.Sampling
import Telemetry.Trace.Context

namespace Telemetry

inductive Sampler where
  | alwaysOn
  | alwaysOff
  | ratio (part : Binary64)
  | parentBased (root : Sampler)
  deriving DecidableEq

namespace Sampler

/-- Of 2 ^ 63 ids, how many a ratio samples. -/
def bound (part : Binary64) : Nat :=
  if Binary64.zero.lt part then (part.mul (Binary64.ofNat (Nat.pow 2 63))).floor else 0

def rank (traceId : BitVec 128) : Nat := traceId.toNat % Nat.pow 2 64 / 2

def samples (parent : Option SpanContext) (traceId : BitVec 128) : Sampler → Bool
  | alwaysOn => true
  | alwaysOff => false
  | ratio part => !part.lt .one && !part.isNaN || rank traceId < bound part
  | parentBased root =>
    match parent with
    | some p => p.sampled
    | none => root.samples parent traceId

/-- The sampler of a policy. A ratio outside of (0, 1) decides without regard to parents. -/
def ofPolicy : Option Sampling → Sampler
  | none | some .parentBased => parentBased alwaysOn
  | some .alwaysOn => alwaysOn
  | some .alwaysOff => alwaysOff
  | some (.ratio part) =>
    if part.isNaN then parentBased (ratio part)
    else if !part.lt .one then alwaysOn
    else if !Binary64.zero.lt part then alwaysOff
    else parentBased (ratio part)

end Sampler

end Telemetry
