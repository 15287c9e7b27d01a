import Mathlib
import Telemetry.Config.Logging
import Telemetry.Proofs.Config.Settings
import Telemetry.Proofs.Text.Digits
import Telemetry.Proofs.Text.Lowercase

namespace Telemetry

open Text Digits ExporterConfig

variable {v s name : String} {b : Bool} {d : Duration} {arg : Option String} {p : Sampling}
  {f : LogFormat} {c : LoggingConfig} {key : String}

def developmentNames : List String := ["development", "dev", "local"]

def HasDigits (s : String) (ds : List Char) : Prop := s.toList = ds ∨ s.toList = '+' :: ds

section Words

theorem isKeyword_truthWords : ∀ p ∈ truthWords, IsKeyword p.1 := by
  simp [truthWords, IsKeyword]

theorem isKeyword_plainPolicies : ∀ p ∈ plainPolicies, IsKeyword p.1 := by
  simp [plainPolicies, IsKeyword]

theorem isKeyword_ratioNames : ∀ w ∈ ratioNames, IsKeyword w := by
  simp [ratioNames, IsKeyword]

theorem isKeyword_developmentNames : ∀ w ∈ developmentNames, IsKeyword w := by
  simp [developmentNames, IsKeyword]

theorem isKeyword_name : IsKeyword f.name := by
  cases f <;> simp [LogFormat.name, IsKeyword]

theorem lower_mem_iff {words : List String} (h : ∀ w ∈ words, IsKeyword w) :
    lower s ∈ words ↔ ∃ w ∈ words, EqIgnoringCase s w := by
  constructor
  · intro hs
    exact ⟨lower s, hs, (lower_eq_iff (h _ hs)).mp rfl⟩
  · intro hs
    obtain ⟨w, hw, hcase⟩ := hs
    rwa [(lower_eq_iff (h w hw)).mpr hcase]

theorem lower_pair_mem_iff {α : Type} {table : List (String × α)} {a : α}
    (h : ∀ p ∈ table, IsKeyword p.1) :
    (lower s, a) ∈ table ↔ ∃ w, (w, a) ∈ table ∧ EqIgnoringCase s w := by
  constructor
  · intro hs
    exact ⟨lower s, hs, (lower_eq_iff (h _ hs)).mp rfl⟩
  · intro hs
    obtain ⟨w, hw, hcase⟩ := hs
    rwa [(lower_eq_iff (h _ hw)).mpr hcase]

theorem boolean_accepts : boolean key v = .ok b ↔
    ∃ w, (w, b) ∈ truthWords ∧ EqIgnoringCase (trim v) w := by
  rw [boolean_eq_ok_iff, IsTruth, lower_pair_mem_iff isKeyword_truthWords]

theorem policy_accepts : Sampling.parse? name arg = some p ↔
    (∃ w, (w, p) ∈ plainPolicies ∧ EqIgnoringCase name w) ∨
    (∃ w ∈ ratioNames, EqIgnoringCase name w) ∧ (arg = none ∧ p = .clamped .one ∨
      ∃ s x, arg = some s ∧ Sampling.argument? s = some x ∧ p = .clamped x) := by
  rw [parse?_eq_some_iff, ← lower_pair_mem_iff isKeyword_plainPolicies,
    ← lower_mem_iff isKeyword_ratioNames]
  constructor
  · intro h
    cases h with
    | plain h => exact .inl h
    | all h harg => exact .inr ⟨h, .inl ⟨harg, rfl⟩⟩
    | part h harg hx hfinite =>
      exact .inr ⟨h, .inr ⟨_, _, harg, argument?_eq_some_iff.mpr ⟨hx, hfinite⟩, rfl⟩⟩
  · rintro (h | ⟨h, ⟨harg, rfl⟩ | ⟨s, x, harg, hx, rfl⟩⟩)
    · exact .plain h
    · exact .all h harg
    · obtain ⟨hparse, hfinite⟩ := argument?_eq_some_iff.mp hx
      exact .part h harg hparse hfinite

theorem format_accepts : LogFormat.parse? s = some f ↔ EqIgnoringCase s f.name := by
  rw [← lower_eq_iff isKeyword_name, LogFormat.parse?]
  split
  · next hs => cases f <;> simp [hs, LogFormat.name]
  · next hs => cases f <;> simp [hs, LogFormat.name]
  · next hjson hpretty =>
    refine iff_of_false nofun ?_
    cases f with
    | json => exact hjson
    | pretty => exact hpretty

theorem isDevelopment_iff : c.isDevelopment = true ↔
    ∃ w ∈ developmentNames, EqIgnoringCase c.environment w := by
  rw [← lower_mem_iff isKeyword_developmentNames, LoggingConfig.isDevelopment,
    List.contains_iff_mem]
  rfl

end Words

section Numerals

theorem milliseconds_accepts : milliseconds key v = .ok d ↔
    ∃ ds n, HasDigits (trim v) ds ∧ Numeral ds n ∧ n < 2 ^ 64 ∧ d = .ofMillis n := by
  rw [milliseconds_eq_ok_iff, IsMillis]
  constructor
  · rintro ⟨ds, hds, hne, hdigits, hlt, rfl⟩
    exact ⟨ds, value ds, hds, numeral_value hne hdigits, hlt, rfl⟩
  · rintro ⟨ds, n, hds, hn, hlt, rfl⟩
    obtain ⟨hne, hdigits, rfl⟩ := numeral_iff.mp hn
    exact ⟨ds, hds, hne, hdigits, hlt, rfl⟩

variable {ds : List Char} {n : ℕ}

theorem HasDigits.unique {es : List Char} {m : ℕ} (hds : HasDigits s ds) (hes : HasDigits s es)
    (hn : Numeral ds n) (hm : Numeral es m) : n = m := by
  have hsame : ds = es := (eq_withoutSign hds hn.isDigit).trans (eq_withoutSign hes hm.isDigit).symm
  rw [← hn.value_eq, ← hm.value_eq, hsame]

theorem milliseconds_eq_word (hds : HasDigits (trim v) ds) (hn : Numeral ds n) :
    milliseconds key v = match word? ds with
      | some w => .ok (.ofMillis w.toNat)
      | none => .error (.notMilliseconds key v) := by
  cases hw : word? ds with
  | some w =>
    have hvalue : value ds = w.toNat := word?_eq_some_iff.mp hw
    rw [hn.value_eq] at hvalue
    exact milliseconds_accepts.mpr ⟨ds, n, hds, hn, hvalue ▸ w.toNat_lt, hvalue ▸ rfl⟩
  | none =>
    have hvalue : 2 ^ 64 ≤ value ds := word?_eq_none_iff.mp hw
    rw [hn.value_eq] at hvalue
    refine milliseconds_eq_error_iff.mpr ⟨fun d hd ↦ ?_, rfl⟩
    rw [← @milliseconds_eq_ok_iff key, milliseconds_accepts] at hd
    obtain ⟨es, m, hes, hm, hlt, -⟩ := hd
    rw [hds.unique hes hn hm] at hvalue
    omega

theorem HasDigits.isAscii (hds : HasDigits s ds) (hn : Numeral ds n) : IsAscii s.toList := by
  have hdigits : IsAscii ds := by
    intro c hc
    have hbounds := toNat_of_isDigit (hn.isDigit c hc)
    omega
  rcases hds with hds | hds
  · rwa [hds]
  · rw [hds]
    exact List.forall_mem_cons.mpr ⟨by decide, hdigits⟩

end Numerals

/-- What settings may say.
* A truth value is one of seven words, with blanks around it; a number of milliseconds is a run of
  digits after at most a plus sign, with blanks around it, whose number fits into 64 bits. Reading
  it in such words says the same.
* A sampling policy, a log format and the environment of a developer each are one of the names for
  it, with nothing around it.

Words and names are taken in any case of their ASCII letters, and none of it has a character in it
that is not ASCII. -/
theorem settings_accepted :
    (∀ key v b, boolean key v = .ok b ↔ ∃ w, (w, b) ∈ truthWords ∧ EqIgnoringCase (trim v) w) ∧
    (∀ key v d, milliseconds key v = .ok d ↔
      ∃ ds n, HasDigits (trim v) ds ∧ Numeral ds n ∧ n < 2 ^ 64 ∧ d = .ofMillis n) ∧
    (∀ key v ds n, HasDigits (trim v) ds → Numeral ds n → milliseconds key v =
      match word? ds with
      | some w => .ok (.ofMillis w.toNat)
      | none => .error (.notMilliseconds key v)) ∧
    (∀ name arg p, Sampling.parse? name arg = some p ↔
      (∃ w, (w, p) ∈ plainPolicies ∧ EqIgnoringCase name w) ∨
      (∃ w ∈ ratioNames, EqIgnoringCase name w) ∧ (arg = none ∧ p = .clamped .one ∨
        ∃ s x, arg = some s ∧ Sampling.argument? s = some x ∧ p = .clamped x)) ∧
    (∀ s f, LogFormat.parse? s = some f ↔ EqIgnoringCase s f.name) ∧
    (∀ c : LoggingConfig, c.isDevelopment = true ↔
      ∃ w ∈ developmentNames, EqIgnoringCase c.environment w) ∧
    (∀ key v, (∃ b, boolean key v = .ok b) ∨ (∃ d, milliseconds key v = .ok d) →
      IsAscii (trim v).toList) ∧
    (∀ s, (∃ arg p, Sampling.parse? s arg = some p) ∨ (∃ f, LogFormat.parse? s = some f) →
      IsAscii s.toList) ∧
    ∀ c : LoggingConfig, c.isDevelopment = true → IsAscii c.environment.toList := by
  refine ⟨fun _ _ _ ↦ boolean_accepts, fun _ _ _ ↦ milliseconds_accepts,
    fun _ _ _ _ ↦ milliseconds_eq_word, fun _ _ _ ↦ policy_accepts, fun _ _ ↦ format_accepts,
    fun _ ↦ isDevelopment_iff, fun key v h ↦ ?_, fun s h ↦ ?_, fun c h ↦ ?_⟩
  · rcases h with ⟨b, h⟩ | ⟨d, h⟩
    · obtain ⟨w, hw, hcase⟩ := boolean_accepts.mp h
      exact hcase.isAscii (isKeyword_truthWords _ hw)
    · obtain ⟨ds, n, hds, hn, -⟩ := milliseconds_accepts.mp h
      exact hds.isAscii hn
  · rcases h with ⟨arg, p, h⟩ | ⟨f, h⟩
    · rcases policy_accepts.mp h with ⟨w, hw, hcase⟩ | ⟨⟨w, hw, hcase⟩, -⟩
      · exact hcase.isAscii (isKeyword_plainPolicies _ hw)
      · exact hcase.isAscii (isKeyword_ratioNames w hw)
    · exact (format_accepts.mp h).isAscii isKeyword_name
  · obtain ⟨w, hw, hcase⟩ := isDevelopment_iff.mp h
    exact hcase.isAscii (isKeyword_developmentNames w hw)

end Telemetry
