import Telemetry.Binary64.Decimal
import Telemetry.Json.Decoder
import Telemetry.Text.Blank
import Telemetry.Text.Lowercase

namespace Telemetry

inductive Sampling where
  | parentBased
  | alwaysOn
  | alwaysOff
  | ratio (part : Binary64)
  deriving DecidableEq

namespace Sampling

/-- The ratio policy for the number of [0, 1] nearest to `part`; a NaN samples nothing. -/
def clamped (part : Binary64) : Sampling :=
  if part.isNaN then ratio .zero else ratio (part.clamp .zero .one)

def argument? (s : String) : Option Binary64 :=
  (Binary64.parse? (Text.trim s)).filter (·.isFinite)

def parse? (name : String) (arg : Option String) : Option Sampling :=
  match Text.lower name with
  | "always_on" => some alwaysOn
  | "always_off" => some alwaysOff
  | "parentbased_always_on" => some parentBased
  | "parent_based" => some parentBased
  | "traceidratio" => ratioOf arg
  | "ratio" => ratioOf arg
  | _ => none
where
  ratioOf : Option String → Option Sampling
    | some s => (argument? s).map clamped
    | none => some (clamped .one)

def decoder [Json.Rounding] : Json.Decoder Sampling :=
  Json.Decoder.choice
    [⟨"parent_based", .none parentBased⟩, ⟨"always_on", .none alwaysOn⟩,
      ⟨"always_off", .none alwaysOff⟩, ⟨"ratio", .one (Json.Decoder.real.map ratio)⟩]

end Sampling

end Telemetry
