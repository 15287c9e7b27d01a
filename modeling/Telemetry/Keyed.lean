namespace Telemetry.Keyed

variable {κ α : Type} [DecidableEq κ]

def put (key : κ) (value : α) : List (κ × α) → List (κ × α)
  | [] => [(key, value)]
  | e :: es => if e.1 = key then (key, value) :: es else e :: put key value es

def get? (key : κ) : List (κ × α) → Option α
  | [] => none
  | e :: es => if e.1 = key then some e.2 else get? key es

def merge (es others : List (κ × α)) : List (κ × α) :=
  others.foldl (fun es e ↦ put e.1 e.2 es) es

theorem get?_put (key other : κ) (value : α) (es : List (κ × α)) :
    get? other (put key value es) = if key = other then some value else get? other es := by
  induction es with
  | nil => rfl
  | cons e es ih => grind [get?, put]

end Telemetry.Keyed
