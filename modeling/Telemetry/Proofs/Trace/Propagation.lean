import Mathlib
import Telemetry.Proofs.Trace.Carriers
import Telemetry.Proofs.Trace.Headers

namespace Telemetry

/-- What the next process makes of a context. Flags without a meaning are not handed on. -/
def SpanContext.received (s : SpanContext) : SpanContext :=
  { s with flags := if s.sampled then 1 else 0, remote := true }

@[simp] theorem SpanContext.sampled_received (s : SpanContext) :
    s.received.sampled = s.sampled := by
  unfold received
  cases s.sampled <;> simp [sampled]

namespace Propagator

def ownKeys : List String := [parentKey, stateKey]

variable {s : SpanContext}

section Lawful

variable {γ : Type} [Carrier γ] [LawfulCarrier γ]

theorem get?_inject (hvalid : s.isValid = true) (carrier : γ) :
    Carrier.get? (inject s carrier .traceContext) parentKey = some (TraceParent.render s) ∧
      Carrier.get? (inject s carrier .traceContext) stateKey = some s.state.render := by
  have hkeys : stateKey ≠ parentKey := by decide
  rw [inject, if_pos hvalid]
  refine ⟨?_, LawfulCarrier.get?_set_self _ _ _⟩
  rw [LawfulCarrier.get?_set_of_ne _ _ hkeys, LawfulCarrier.get?_set_self]

theorem extract_inject (hvalid : s.isValid = true) (hstate : s.state.WellFormed) (carrier : γ) :
    extract (inject s carrier .traceContext) .traceContext = some s.received := by
  obtain ⟨hparent, hentries⟩ := get?_inject hvalid carrier
  have hids : s.traceId != 0 && s.spanId != 0 := hvalid
  simp only [extract, hparent, hentries, Option.bind_eq_bind, Option.bind_some,
    TraceParent.parse?_render, TraceState.parse?_render hstate, Option.getD_some,
    SpanContext.isValid, hids, if_true]
  rfl

end Lawful

theorem filter_inject (s : SpanContext) (h : Headers) :
    (inject s h .traceContext).entries.filter (·.1 ∉ ownKeys) =
      h.entries.filter (·.1 ∉ ownKeys) := by
  have hown {key : String} (hkey : key ∈ ownKeys) (value : List UInt8) :
      decide ((key, value).1 ∉ ownKeys) = false := by simpa using hkey
  rw [inject]
  split
  · change (Keyed.put stateKey _ (Keyed.put parentKey _ h.entries)).filter _ = _
    rw [Keyed.filter_put (hown (by decide)), Keyed.filter_put (hown (by decide))]
  · rfl

/-- A valid context whose entries are well-formed arrives as a remote one with the same trace, span,
sampling and entries. It does so through all headers and through all maps, and headers with other
keys keep their values and their order. -/
theorem crosses_every_carrier (hvalid : s.isValid = true) (hstate : s.state.WellFormed) :
    ∃ r : SpanContext,
      (r.remote = true ∧ r.traceId = s.traceId ∧ r.spanId = s.spanId ∧ r.sampled = s.sampled ∧
        r.state = s.state) ∧
      (∀ h : Headers, extract (inject s h .traceContext) .traceContext = some r) ∧
      (∀ m : TextMap, extract (inject s m .traceContext) .traceContext = some r) ∧
      ∀ h : Headers, (inject s h .traceContext).entries.filter (·.1 ∉ ownKeys) =
        h.entries.filter (·.1 ∉ ownKeys) :=
  ⟨s.received, ⟨rfl, rfl, rfl, s.sampled_received, rfl⟩, extract_inject hvalid hstate,
    extract_inject hvalid hstate, filter_inject s⟩

/-- All flags are set, and the headers hold an older context, twice, and bytes that are no text. -/
theorem crosses_stale_headers :
    let s : SpanContext :=
      { traceId := 0x4bf92f3577b34da6a3ce929d0e0e4736
        spanId := 0x00f067aa0ba902b7
        flags := 0xFF
        state := ⟨[("rojo", "00f067aa0ba902b7"), ("t61rcwkgmze@vnd", "a b")]⟩ }
    let h : Headers :=
      ⟨[("traceparent", [0x78]), ("route", [1]), ("tracestate", [0xFF, 0xFE]),
        ("traceparent", [0x79])]⟩
    s.isValid = true ∧ s.state.WellFormed ∧ ∃ r : SpanContext,
      r.sampled = true ∧ r.state = s.state ∧
        extract (inject s h .traceContext) .traceContext = some r := by
  intro s h
  have hvalid : s.isValid = true := by decide
  have hstate : s.state.WellFormed := by decide
  obtain ⟨r, ⟨-, -, -, hsampled, hentries⟩, hheaders, -⟩ := crosses_every_carrier hvalid hstate
  exact ⟨hvalid, hstate, r, hsampled.trans (by decide), hentries, hheaders h⟩

end Propagator

end Telemetry
