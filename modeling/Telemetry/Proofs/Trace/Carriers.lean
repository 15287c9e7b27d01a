import Mathlib
import Telemetry.Proofs.Text.Utf8
import Telemetry.Trace.Carrier

namespace Telemetry

/-- A carrier that gives back what has been set, and leaves the rest alone. -/
class LawfulCarrier (γ : Type) [Carrier γ] : Prop where
  get?_set (carrier : γ) (key value other : String) :
    Carrier.get? (Carrier.set carrier key value) other =
      if key = other then some value else Carrier.get? carrier other

namespace LawfulCarrier

variable {γ : Type} [Carrier γ] [LawfulCarrier γ] {key other : String}

@[simp] theorem get?_set_self (carrier : γ) (key value : String) :
    Carrier.get? (Carrier.set carrier key value) key = some value := by
  rw [get?_set, if_pos rfl]

theorem get?_set_of_ne (carrier : γ) (value : String) (h : key ≠ other) :
    Carrier.get? (Carrier.set carrier key value) other = Carrier.get? carrier other := by
  rw [get?_set, if_neg h]

end LawfulCarrier

instance : LawfulCarrier Headers where
  get?_set h key value other := by
    simp only [Carrier.get?, Carrier.set, Keyed.get?_put]
    split <;> simp

instance : LawfulCarrier TextMap where
  get?_set m key value other := Keyed.get?_put key other value m.entries

namespace Keyed

variable {κ α : Type} [DecidableEq κ]

theorem filter_put {keep : κ × α → Bool} {key : κ} (h : ∀ value, keep (key, value) = false)
    (value : α) (es : List (κ × α)) : (put key value es).filter keep = es.filter keep := by
  induction es with
  | nil => simp [put, h]
  | cons e es ih =>
    obtain ⟨k, v⟩ := e
    rw [put]
    split
    · next hkey =>
      obtain rfl : k = key := hkey
      simp [h]
    · rw [List.filter_cons, List.filter_cons, ih]

end Keyed

end Telemetry
