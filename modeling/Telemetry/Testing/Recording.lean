import Telemetry.Config.Exporter
import Telemetry.Provider.Binding

namespace Telemetry.Testing

structure Recording where
  id : Nat
  fails : Bool := false
  delay : Duration := .zero
  shutdowns : Nat := 0
  deriving DecidableEq

/-- Everything that has been made: all providers, and the places of those that the factory built. -/
structure Recorder where
  providers : List Recording := []
  built : List Nat := []

namespace Recorder

def add (r : Recorder) (p : Recording) : Nat × Recorder :=
  (r.providers.length, { r with providers := r.providers ++ [p] })

def create (r : Recorder) (c : ExporterConfig) : Except ConfigFault (Option Nat) × Recorder :=
  if c.isDisabled then (.ok none, r)
  else match c.validate with
    | .error f => (.error f, r)
    | .ok () =>
      let (place, r) := r.add { id := r.built.length }
      (.ok (some place), { r with built := r.built ++ [place] })

def id? (r : Recorder) (place : Nat) : Option Nat := r.providers[place]?.map (·.id)

def shutdowns (r : Recorder) (place : Nat) : Nat := (r.providers[place]?.map (·.shutdowns)).getD 0

def shutdown (_ : Signal) (place : Nat) (r : Recorder) : Attempt × Recorder :=
  match r.providers[place]? with
  | none => ({}, r)
  | some p =>
    let refusal := "provider " ++ p.id.repr ++ " refused to flush"
    ({ span := some p.delay, result := if p.fails then .error refusal else .ok () },
      { r with providers := r.providers.set place { p with shutdowns := p.shutdowns + 1 } })

end Recorder

end Telemetry.Testing
