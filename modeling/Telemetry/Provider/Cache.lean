import Telemetry.Event
import Telemetry.Keyed
import Telemetry.Signal

namespace Telemetry

inductive Origin where
  | cached
  | created
  | raced
  deriving DecidableEq

def Origin.title : Origin → String
  | cached => "Cached"
  | created => "Created"
  | raced => "Raced"

/-- The answer to a lookup. There is no provider when export is off. -/
structure Resolved (α : Type) where
  provider : Option α
  origin : Origin

/-- Whether the lookup made the provider, so that its caller has to see to its shutdown. -/
def Resolved.isNew {α : Type} (r : Resolved α) : Bool :=
  r.origin == .created && r.provider.isSome

structure ProviderCache (α : Type) where
  entries : List (String × Option α) := []

namespace ProviderCache

variable {α : Type}

/-- What is looked up. With `enables` set, a note that export is off does not count as an answer. -/
structure Request where
  key : String
  enables : Bool
  deriving DecidableEq

def entry? (c : ProviderCache α) (key : String) : Option (Option α) := Keyed.get? key c.entries

def size (c : ProviderCache α) : Nat := c.entries.length

/-- Forgets all entries and shuts nothing down. -/
def clear (_ : ProviderCache α) : ProviderCache α := {}

def put (c : ProviderCache α) (key : String) (value : Option α) : ProviderCache α :=
  ⟨Keyed.put key value c.entries⟩

def hit? (c : ProviderCache α) (r : Request) : Option (Resolved α) :=
  match entry? c r.key with
  | none => none
  | some (some p) => some ⟨some p, .cached⟩
  | some none => if r.enables then none else some ⟨none, .cached⟩

structure Settled (α : Type) where
  cache : ProviderCache α
  resolved : Resolved α
  discarded : Option α := none

/-- The second step of a lookup, with the candidate that has been built: it becomes the entry unless
there is one by now. A provider takes the place of a note that export is off if it may. -/
def settle (c : ProviderCache α) (r : Request) (candidate : Option α) : Settled α :=
  let created : Settled α := ⟨c.put r.key candidate, ⟨candidate, .created⟩, none⟩
  match entry? c r.key with
  | none => created
  | some existing =>
    if r.enables && existing.isNone && candidate.isSome then created
    else ⟨c, ⟨existing, .raced⟩, candidate⟩

def Settled.events (s : Settled α) (k : Signal) (r : Request) : List Event :=
  if s.resolved.isNew then
    [.named "provider_created" .debug "cached new provider" [("kind", k.name), ("key", r.key)]]
  else if s.discarded.isSome then
    [.named "provider_discarded" .debug "lost provider creation race, discarding candidate"
      [("kind", k.name), ("key", r.key)]]
  else []

def debug (c : ProviderCache α) (k : Signal) : String :=
  "ProviderCache \x7b kind: " ++ k.title ++ ", entries: " ++ c.size.repr ++ " \x7d"

end ProviderCache

end Telemetry
