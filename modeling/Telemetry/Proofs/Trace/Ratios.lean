import Mathlib
import Telemetry.Trace.Sampler
import Telemetry.Proofs.Binary64.Decimals
import Telemetry.Proofs.Config.Documents
import Telemetry.Proofs.Config.Settings

namespace Telemetry

open Binary64 ExporterConfig

variable {x r : Binary64} {q : ℚ} {name s : String} {arg : Option String}

/-- A part of the whole, from nothing to all of it. -/
structure IsPart (x : Binary64) : Prop where
  finite : x.isFinite = true
  nonneg : 0 ≤ x.value
  le_one : x.value ≤ 1

section Range

theorem isPart_zero : IsPart zero := by
  refine ⟨rfl, ?_, ?_⟩ <;> rw [value_zero]
  exact zero_le_one

theorem isPart_one : IsPart one := by
  refine ⟨rfl, ?_, ?_⟩ <;> rw [value_one]
  exact zero_le_one

theorem isPart_clamp (hx : x.isNaN = false) : IsPart (x.clamp zero one) := by
  rw [clamp_unit hx]
  split
  · exact isPart_zero
  · next hzero =>
    split
    · exact isPart_one
    · next hone =>
      rw [not_lt] at hzero hone
      exact ⟨isFinite_of_unit hx hzero hone, hzero, hone⟩

theorem clamped_eq (hx : x.isNaN = false) : Sampling.clamped x = .ratio (x.clamp zero one) := by
  rw [Sampling.clamped, hx, if_neg Bool.false_ne_true]

theorem isPart_of_clamped (h : Sampling.clamped x = .ratio r) : IsPart r := by
  cases hx : x.isNaN with
  | true =>
    rw [Sampling.clamped, hx, if_pos rfl] at h
    cases h
    exact isPart_zero
  | false =>
    rw [clamped_eq hx] at h
    cases h
    exact isPart_clamp hx

theorem isPart_of_asks (h : Asks name arg (.ratio r)) : IsPart r := by
  generalize hp : Sampling.ratio r = p at h
  cases h with
  | plain hplain =>
    subst hp
    simp [plainPolicies] at hplain
  | all => exact isPart_of_clamped hp.symm
  | part => exact isPart_of_clamped hp.symm

theorem isPart_of_ofLookup {f : String → Option String} {c : ExporterConfig}
    (h : ofLookup f = .ok c) (hr : c.sampling = some (.ratio r)) : IsPart r := by
  have hsampling := (ofLookup_eq_ok_iff.mp h).sampling
  rw [hr] at hsampling
  cases hset : f "OTEL_TRACES_SAMPLER" with
  | none =>
    rw [hset] at hsampling
    cases hsampling
  | some v =>
    rw [hset] at hsampling
    obtain ⟨p, hp, hasks⟩ := hsampling
    cases hp
    exact isPart_of_asks hasks

end Range

section Samplers

theorem ofPolicy_ratio (hx : x.isNaN = false) : Sampler.ofPolicy (some (.ratio x)) =
    if 1 ≤ x.value then .alwaysOn
    else if x.value ≤ 0 then .alwaysOff
    else .parentBased (.ratio x) := by
  have hwhole : (!x.lt one) = true ↔ 1 ≤ x.value := by
    rw [Bool.not_eq_true', ← Bool.not_eq_true, lt_iff hx rfl, value_one, not_lt]
  have hnothing : (!zero.lt x) = true ↔ x.value ≤ 0 := by
    rw [Bool.not_eq_true', ← Bool.not_eq_true, lt_iff rfl hx, value_zero, not_lt]
  rw [Sampler.ofPolicy, hx, if_neg Bool.false_ne_true]
  simp only [hwhole, hnothing]

theorem ofPolicy_clamped (hx : x.isNaN = false) :
    Sampler.ofPolicy (some (.clamped x)) = Sampler.ofPolicy (some (.ratio x)) := by
  rw [clamped_eq hx, clamp_unit hx, ofPolicy_ratio hx]
  split
  · next hnegative =>
    rw [ofPolicy_ratio rfl, value_zero, if_neg (by norm_num), if_pos le_rfl, if_neg (by linarith),
      if_pos hnegative.le]
  · split
    · next hlarge => rw [ofPolicy_ratio rfl, value_one, if_pos le_rfl, if_pos hlarge.le]
    · exact ofPolicy_ratio hx

end Samplers

section Arguments

theorem spells_of_argument? (h : Sampling.argument? s = some x) :
    ∃ q, Spells (Text.trim s).toList q ∧ Rounds q x ∧ x.isFinite = true := by
  obtain ⟨hparse, hfinite⟩ := argument?_eq_some_iff.mp h
  obtain ⟨q, hq⟩ := spells_of_parse? hparse hfinite
  obtain ⟨y, hy, hround⟩ := parse?_of_spells hq
  obtain rfl : y = x := Option.some.inj (hy.symm.trans hparse)
  exact ⟨q, hq, hround, hfinite⟩

theorem argument?_of_spells (hq : Spells (Text.trim s).toList q) (hx : Rounds q x)
    (hfinite : x.isFinite = true) : ∃ y, Sampling.argument? s = some y := by
  obtain ⟨y, hy, hround⟩ := parse?_of_spells hq
  -- The two may differ, as zeros do, but what the number is rounded to is finite or not.
  have hyfinite : y.isFinite = true := hround.isFinite_iff.mpr (hx.isFinite_iff.mp hfinite)
  exact ⟨y, argument?_eq_some_iff.mpr ⟨hy, hyfinite⟩⟩

theorem argument?_eq_none_iff : Sampling.argument? s = none ↔
    ¬ ∃ q x, Spells (Text.trim s).toList q ∧ Rounds q x ∧ x.isFinite = true := by
  rw [Option.eq_none_iff_forall_ne_some, ← not_exists, not_iff_not]
  constructor
  · intro h
    obtain ⟨x, hx⟩ := h
    obtain ⟨q, hq⟩ := spells_of_argument? hx
    exact ⟨q, x, hq⟩
  · intro h
    obtain ⟨q, x, hq, hx, hfinite⟩ := h
    exact argument?_of_spells hq hx hfinite

theorem parse?_of_argument (h : Text.lower name ∈ ratioNames) :
    Sampling.parse? name (some s) = (Sampling.argument? s).map .clamped := by
  rw [parse?_of_ratio _ h, Sampling.parse?.ratioOf]

end Arguments

/-- Ratios on both ways to a sampler.
* A number leads to one sampler, kept between 0 and 1 or not; in JSON it is not.
* A ratio by name is a part of the whole, in whatever configuration it comes.
* An argument leads to the sampler for what its number is rounded to. It is refused just when it is
  no decimal whose number is rounded to a finite one. -/
theorem ratios_sampled [Json.Rounding] :
    (∀ x : Binary64, x.isNaN = false →
      Sampler.ofPolicy (some (.ratio x)) = Sampler.ofPolicy (some (.clamped x))) ∧
    (∀ n : Json.Number,
      Sampling.decoder.ofJson (.obj [("ratio", .num n)]) = .ok (.ratio n.toBinary64)) ∧
    (∀ name arg r, Sampling.parse? name arg = some (.ratio r) → IsPart r) ∧
    (∀ f c r, ofLookup f = .ok c → c.sampling = some (.ratio r) → IsPart r) ∧
    (∀ name s p, Text.lower name ∈ ratioNames → Sampling.parse? name (some s) = some p →
      ∃ q x, Spells (Text.trim s).toList q ∧ Rounds q x ∧ p = .clamped x ∧
        Sampler.ofPolicy (some p) = Sampler.ofPolicy (some (.ratio x))) ∧
    ∀ name s, Text.lower name ∈ ratioNames → (Sampling.parse? name (some s) = none ↔
      ¬ ∃ q x, Spells (Text.trim s).toList q ∧ Rounds q x ∧ x.isFinite = true) := by
  refine ⟨fun x hx ↦ (ofPolicy_clamped hx).symm,
    fun n ↦ Sampling.decoder_ofJson_eq_ok_iff.mpr (.ratio n),
    fun name arg r h ↦ isPart_of_asks (parse?_eq_some_iff.mp h),
    fun f c r ↦ isPart_of_ofLookup, fun name s p hname h ↦ ?_, fun name s hname ↦ ?_⟩
  · rw [parse?_of_argument hname] at h
    obtain ⟨x, hx, rfl⟩ := Option.map_eq_some_iff.mp h
    obtain ⟨q, hq, hround, hfinite⟩ := spells_of_argument? hx
    exact ⟨q, x, hq, hround, rfl, ofPolicy_clamped (number_of_isFinite hfinite)⟩
  · rw [parse?_of_argument hname, Option.map_eq_none_iff, argument?_eq_none_iff]

end Telemetry
