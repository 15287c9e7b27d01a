import Telemetry.Keyed
import Telemetry.Text.Utf8

namespace Telemetry

class Carrier (γ : Type) where
  get? : γ → String → Option String
  set : γ → String → String → γ
  keys : γ → List String

/-- The headers of a message. A key may stand more than once; only the first counts. -/
structure Headers where
  entries : List (String × List UInt8) := []
  deriving DecidableEq

instance : Carrier Headers where
  get? h key := (Keyed.get? key h.entries).bind Utf8.decode?
  set h key value := ⟨Keyed.put key (Utf8.encode value) h.entries⟩
  keys h := h.entries.map (·.1)

/-- A map of texts, in which no key stands twice. -/
structure TextMap where
  entries : List (String × String) := []
  deriving DecidableEq

instance : Carrier TextMap where
  get? m key := Keyed.get? key m.entries
  set m key value := ⟨Keyed.put key value m.entries⟩
  keys m := m.entries.map (·.1)

/-- The map that a list of entries fills; of equal keys the last one counts. -/
def TextMap.ofList (es : List (String × String)) : TextMap := ⟨Keyed.merge [] es⟩

end Telemetry
