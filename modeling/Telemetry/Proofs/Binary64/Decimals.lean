import Mathlib
import Telemetry.Binary64.Decimal
import Telemetry.Proofs.Binary64.Rounding
import Telemetry.Proofs.Text.Digits

namespace Telemetry.Binary64

open Digits

variable {cs ds sign rest : List Char} {str : String} {x : Binary64} {q : ℚ} {s z : ℤ} {n k : ℕ}

inductive Sign : List Char → ℤ → Prop
  | none : Sign [] 1
  | plus : Sign ['+'] 1
  | minus : Sign ['-'] (-1)

/-- Digits that may have a point before, among or after them: their number without the point, and
how many of them follow it. -/
inductive Mantissa : List Char → ℕ → ℕ → Prop
  | whole {ds : List Char} {n : ℕ} (hds : Numeral ds n) : Mantissa ds n 0
  | point {ds es : List Char} {n : ℕ} (hds : Numeral (ds ++ es) n) :
      Mantissa (ds ++ '.' :: es) n es.length

inductive Exponent : List Char → ℤ → Prop
  | none : Exponent [] 0
  | some {c : Char} {sign ds : List Char} {s : ℤ} {n : ℕ} (hc : c = 'e' ∨ c = 'E')
      (hsign : Sign sign s) (hds : Numeral ds n) : Exponent (c :: (sign ++ ds)) (s * n)

inductive Spells : List Char → ℚ → Prop
  | decimal {sign ms es : List Char} {s z : ℤ} {n k : ℕ} (hsign : Sign sign s)
      (hms : Mantissa ms n k) (hes : Exponent es z) :
      Spells (sign ++ (ms ++ es)) (s * (n * 10 ^ (z - k)))

section Parts

theorem splitSign_spec (cs : List Char) : ∃ sign s, Sign sign s ∧ cs = sign ++ (splitSign cs).2 ∧
    s = if (splitSign cs).1 then -1 else 1 := by
  unfold splitSign
  split
  · exact ⟨['-'], -1, .minus, rfl, rfl⟩
  · exact ⟨['+'], 1, .plus, rfl, rfl⟩
  · exact ⟨[], 1, .none, rfl, rfl⟩

theorem splitSign_append (hsign : Sign sign s) (hplus : rest.head? ≠ some '+')
    (hminus : rest.head? ≠ some '-') :
    ∃ negative, splitSign (sign ++ rest) = (negative, rest) ∧ s = if negative then -1 else 1 := by
  cases hsign with
  | none =>
    refine ⟨false, ?_, rfl⟩
    rw [List.nil_append]
    unfold splitSign
    split
    · simp at hminus
    · simp at hplus
    · rfl
  | plus => exact ⟨false, rfl, rfl⟩
  | minus => exact ⟨true, rfl, rfl⟩

theorem head?_of_isDigit {c : Char} (h : isDigit c = false) (hds : ∀ c ∈ ds, isDigit c = true) :
    ds.head? ≠ some c := by
  intro hc
  rw [hds c (List.mem_of_head? hc)] at h
  cases h

theorem exponentPart?_eq_some_iff : exponentPart? cs = some z ↔ Exponent cs z := by
  constructor
  · intro h
    unfold exponentPart? at h
    split at h
    · cases h
      exact .none
    · next c rest =>
      split at h
      · next hc =>
        obtain ⟨sign, s, hsign, hrest, hs⟩ := splitSign_spec rest
        dsimp only at h
        split at h
        · cases h
        · next hds =>
          obtain ⟨hne, hdigits⟩ : (splitSign rest).2 ≠ [] ∧
              ∀ c ∈ (splitSign rest).2, isDigit c = true := by simpa using hds
          have hc : c = 'e' ∨ c = 'E' := by simpa using hc
          have hexponent := Exponent.some hc hsign (numeral_value hne hdigits)
          rw [← hrest] at hexponent
          cases h
          convert hexponent using 1
          rw [hs]
          split <;> simp
      · cases h
  · intro h
    cases h with
    | none => rfl
    | @some c sign ds s n hc hsign hds =>
      obtain ⟨negative, hsplit, rfl⟩ := splitSign_append hsign
        (head?_of_isDigit rfl hds.isDigit) (head?_of_isDigit rfl hds.isDigit)
      have hletter : (decide (c = 'e') || decide (c = 'E')) = true := by simpa using hc
      have hall : ds.all isDigit = true := List.all_eq_true.mpr hds.isDigit
      have hne : ds.isEmpty = false := by simpa using hds.ne_nil
      rw [exponentPart?, if_pos hletter, hsplit]
      dsimp only
      rw [hall, hne, hds.value_eq]
      cases negative <;> simp

theorem span_digits (hds : ∀ c ∈ ds, isDigit c = true) (hrest : ∀ c ∈ rest.head?, isDigit c = false) :
    (ds ++ rest).takeWhile isDigit = ds ∧ (ds ++ rest).dropWhile isDigit = rest := by
  have hnone : rest.takeWhile isDigit = [] ∧ rest.dropWhile isDigit = rest := by
    cases rest with
    | nil => exact ⟨rfl, rfl⟩
    | cons c rest =>
      have hc : ¬ isDigit c = true := by simp [hrest c rfl]
      exact ⟨List.takeWhile_cons_of_neg hc, List.dropWhile_cons_of_neg hc⟩
  rw [List.takeWhile_append_of_pos hds, List.dropWhile_append_of_pos hds, hnone.1, hnone.2,
    List.append_nil]
  exact ⟨rfl, rfl⟩

theorem Exponent.head? (h : Exponent cs z) : ∀ c ∈ cs.head?, c = 'e' ∨ c = 'E' := by
  intro c hc
  cases h with
  | none => cases hc
  | some hletter =>
    cases hc
    exact hletter

theorem Mantissa.head? (h : Mantissa cs n k) :
    ∃ c rest, cs = c :: rest ∧ (isDigit c = true ∨ c = '.') := by
  cases h with
  | whole hds =>
    obtain ⟨c, rest, rfl⟩ := List.exists_cons_of_ne_nil hds.ne_nil
    exact ⟨c, rest, rfl, .inl (hds.isDigit c List.mem_cons_self)⟩
  | @point ds es n hds =>
    cases ds with
    | nil => exact ⟨'.', es, rfl, .inr rfl⟩
    | cons c ds => exact ⟨c, ds ++ '.' :: es, rfl, .inl (hds.isDigit c List.mem_cons_self)⟩

def fraction : List Char → List Char × List Char
  | '.' :: more => (more.takeWhile isDigit, more.dropWhile isDigit)
  | cs => ([], cs)

theorem unsignedDecimal?_eq (cs : List Char) : unsignedDecimal? cs =
    if (cs.takeWhile isDigit).isEmpty && (fraction (cs.dropWhile isDigit)).1.isEmpty then none
    else (exponentPart? (fraction (cs.dropWhile isDigit)).2).map fun e ↦
      ofDecimal (Digits.value (cs.takeWhile isDigit ++ (fraction (cs.dropWhile isDigit)).1))
        (e - (fraction (cs.dropWhile isDigit)).1.length) := by
  unfold unsignedDecimal?
  dsimp only
  generalize cs.dropWhile isDigit = rest
  split
  · rfl
  · next hpoint =>
    have hfraction : fraction rest = ([], rest) := by
      unfold fraction
      split
      · exact (hpoint _ rfl).elim
      · rfl
    rw [hfraction]

theorem mantissa_of_fraction (hds : ∀ c ∈ ds, isDigit c = true)
    (hne : ds ++ (fraction rest).1 ≠ []) : ∃ ms, ds ++ rest = ms ++ (fraction rest).2 ∧
      Mantissa ms (Digits.value (ds ++ (fraction rest).1)) (fraction rest).1.length := by
  unfold fraction at hne ⊢
  split at hne
  · next more =>
    have hmore := List.takeWhile_append_dropWhile (p := isDigit) (l := more)
    have hdigits : ∀ c ∈ ds ++ more.takeWhile isDigit, isDigit c = true :=
      List.forall_mem_append.mpr ⟨hds, fun c ↦ List.mem_takeWhile_imp⟩
    refine ⟨ds ++ '.' :: more.takeWhile isDigit, ?_, .point (numeral_value hne hdigits)⟩
    rw [List.append_assoc, List.cons_append, hmore]
  · rw [List.append_nil] at hne ⊢
    exact ⟨ds, rfl, .whole (numeral_value hne hds)⟩

theorem fraction_of_mantissa {ms es : List Char} (hms : Mantissa ms n k) (hes : Exponent es z) :
    ∃ ds fs, (ms ++ es).takeWhile isDigit = ds ∧ fraction ((ms ++ es).dropWhile isDigit) = (fs, es) ∧
      Numeral (ds ++ fs) n ∧ fs.length = k := by
  have hletter : ∀ c ∈ es.head?, isDigit c = false := by
    intro c hc
    rcases hes.head? c hc with rfl | rfl <;> rfl
  cases hms with
  | whole hds =>
    obtain ⟨htake, hdrop⟩ := span_digits hds.isDigit hletter
    refine ⟨ms, [], htake, ?_, by rwa [List.append_nil], rfl⟩
    rw [hdrop]
    unfold fraction
    split
    · -- An exponent does not begin with a point.
      rcases hes.head? '.' rfl with h | h <;> cases h
    · rfl
  | @point ds fs n hds =>
    obtain ⟨hwhole, hafter⟩ := List.forall_mem_append.mp hds.isDigit
    have hpoint : ∀ c ∈ ('.' :: (fs ++ es)).head?, isDigit c = false := by
      intro c hc
      cases hc
      rfl
    obtain ⟨htake, hdrop⟩ := span_digits hwhole hpoint
    obtain ⟨hfraction, hrest⟩ := span_digits hafter hletter
    rw [List.append_assoc, List.cons_append]
    refine ⟨ds, fs, htake, ?_, hds, rfl⟩
    rw [hdrop, fraction, hfraction, hrest]

theorem unsignedDecimal?_eq_some_iff : unsignedDecimal? cs = some x ↔ ∃ ms es n k z,
    cs = ms ++ es ∧ Mantissa ms n k ∧ Exponent es z ∧ x = ofDecimal n (z - k) := by
  rw [unsignedDecimal?_eq]
  constructor
  · intro h
    split at h
    · cases h
    · next hempty =>
      obtain ⟨z, hz, rfl⟩ := Option.map_eq_some_iff.mp h
      have hwhole : ∀ c ∈ cs.takeWhile isDigit, isDigit c = true := fun c ↦ List.mem_takeWhile_imp
      have hne : cs.takeWhile isDigit ++ (fraction (cs.dropWhile isDigit)).1 ≠ [] := by
        simpa using hempty
      obtain ⟨ms, hcs, hms⟩ := mantissa_of_fraction hwhole hne
      rw [List.takeWhile_append_dropWhile] at hcs
      exact ⟨ms, _, _, _, z, hcs, hms, exponentPart?_eq_some_iff.mp hz, rfl⟩
  · rintro ⟨ms, es, n, k, z, rfl, hms, hes, rfl⟩
    obtain ⟨ds, fs, hwhole, hfraction, hnumeral, rfl⟩ := fraction_of_mantissa hms hes
    have hne : ¬ (ds.isEmpty && fs.isEmpty) = true := by simpa using hnumeral.ne_nil
    rw [hwhole, hfraction]
    dsimp only
    rw [if_neg hne, exponentPart?_eq_some_iff.mpr hes, hnumeral.value_eq]
    rfl

end Parts

section Numbers

theorem length_toDigits (hn : n ≠ 0) : n < 10 ^ (Nat.toDigits 10 n).length ∧
    10 ^ ((Nat.toDigits 10 n).length - 1) ≤ n := by
  have hle (k : ℕ) (hk : 0 < k) := Nat.length_toDigits_le_iff (n := n) (by decide : 1 < 10) hk
  have hpos : 0 < (Nat.toDigits 10 n).length := Nat.length_toDigits_pos
  refine ⟨(hle _ hpos).mp le_rfl, ?_⟩
  by_cases hone : (Nat.toDigits 10 n).length = 1
  · rw [hone]
    exact Nat.one_le_iff_ne_zero.mpr hn
  · by_contra hlt
    have hshort := (hle _ (by omega)).mpr (Nat.lt_of_not_le hlt)
    omega

theorem two_zpow_le_ten_zpow {a b : ℕ} (h : 2 ^ a ≤ 10 ^ b) : (2 : ℚ) ^ (a : ℤ) ≤ 10 ^ (b : ℤ) := by
  exact_mod_cast h

theorem ten_zpow_le {a b : ℤ} (h : a ≤ b) : (10 : ℚ) ^ a ≤ 10 ^ b :=
  zpow_le_zpow_right₀ (by norm_num) h

/-- The powers that are not computed decide nothing: below them there is zero only, and above them
nothing finite. -/
theorem rounds_ofDecimal (n : ℕ) (z : ℤ) : Rounds (n * 10 ^ z) (ofDecimal n z) := by
  have hten : (0 : ℚ) < 10 ^ z := by positivity
  unfold ofDecimal
  dsimp only
  by_cases hn : n = 0
  · rw [if_pos (by simp [hn]), hn, Nat.cast_zero, zero_mul]
    exact rounds_zero le_rfl (two_zpow_pos _).le
  obtain ⟨hhigh, hlow⟩ := length_toDigits hn
  have hpos : 0 < (Nat.toDigits 10 n).length := Nat.length_toDigits_pos
  generalize (Nat.toDigits 10 n).length = l at *
  split
  · next hsmall =>
    have hsmall : z + l < -330 := by simpa [hn] using hsmall
    refine rounds_zero (by positivity) ?_
    have hcast : (n : ℚ) ≤ 10 ^ (l : ℤ) := by exact_mod_cast hhigh.le
    have hlast : (10 : ℚ) ^ (-331 : ℤ) ≤ 2 ^ (-1075 : ℤ) := by
      rw [zpow_neg, zpow_neg]
      exact inv_anti₀ (two_zpow_pos 1075)
        (two_zpow_le_ten_zpow (a := 1075) (b := 331) (by decide +kernel))
    calc (n : ℚ) * 10 ^ z
      _ ≤ 10 ^ (l : ℤ) * 10 ^ z := by gcongr
      _ = 10 ^ ((l : ℤ) + z) := (zpow_add₀ (by norm_num) _ _).symm
      _ ≤ 10 ^ (-331 : ℤ) := ten_zpow_le (by omega)
      _ ≤ 2 ^ (-1075 : ℤ) := hlast
  · split
    · next hlarge =>
      apply rounds_infinity
      have hcast : (10 : ℚ) ^ ((l : ℤ) - 1) ≤ n := by
        have hsub : ((l : ℤ) - 1) = ((l - 1 : ℕ) : ℤ) := by omega
        rw [hsub]
        exact_mod_cast hlow
      have hfirst : (2 : ℚ) ^ (1024 : ℤ) ≤ 10 ^ (310 : ℤ) :=
        two_zpow_le_ten_zpow (a := 1024) (b := 310) (by decide +kernel)
      calc (2 : ℚ) ^ (1024 : ℤ)
        _ ≤ 10 ^ (310 : ℤ) := hfirst
        _ ≤ 10 ^ ((l : ℤ) - 1 + z) := ten_zpow_le (by omega)
        _ = 10 ^ ((l : ℤ) - 1) * 10 ^ z := zpow_add₀ (by norm_num) _ _
        _ ≤ n * 10 ^ z := by gcongr
    · have hround := rounds_ofRatio (n * 10 ^ z.toNat) (d := 10 ^ (-z).toNat) (by positivity)
      push_cast at hround
      rwa [mul_div_assoc, pow_toNat_div (by norm_num)] at hround

theorem parse?_of_spells (h : Spells str.toList q) : ∃ x, parse? str = some x ∧ Rounds q x := by
  generalize hcs : str.toList = cs at h
  cases h with
  | @decimal sign ms es s z n k hsign hms hes =>
    obtain ⟨c, rest, hhead, hc⟩ := hms.head?
    have hplus : (ms ++ es).head? ≠ some '+' := by
      rw [hhead]
      rintro ⟨⟩
      rcases hc with h | h <;> cases h
    have hminus : (ms ++ es).head? ≠ some '-' := by
      rw [hhead]
      rintro ⟨⟩
      rcases hc with h | h <;> cases h
    obtain ⟨negative, hsplit, rfl⟩ := splitSign_append hsign hplus hminus
    have hunsigned : unsignedDecimal? (ms ++ es) = some (ofDecimal n (z - k)) :=
      unsignedDecimal?_eq_some_iff.mpr ⟨ms, es, n, k, z, rfl, hms, hes, rfl⟩
    have hround := rounds_ofDecimal n (z - k)
    rw [parse?, hcs, hsplit]
    dsimp only
    rw [hunsigned]
    cases negative with
    | false => exact ⟨_, rfl, by simpa using hround⟩
    | true => exact ⟨_, rfl, by simpa using hround.negate⟩

theorem not_isFinite_of_named? (h : named? cs = some x) : x.isFinite = false := by
  unfold named? at h
  split at h <;> cases h <;> decide

theorem spells_of_parse? (h : parse? str = some x) (hx : x.isFinite = true) :
    ∃ q, Spells str.toList q := by
  obtain ⟨sign, s, hsign, hcs, -⟩ := splitSign_spec str.toList
  unfold parse? at h
  dsimp only at h
  obtain ⟨y, hy, rfl⟩ := Option.map_eq_some_iff.mp h
  have hfinite : y.isFinite = true := by
    split at hx
    · rwa [isFinite_negate] at hx
    · exact hx
  cases hunsigned : unsignedDecimal? (splitSign str.toList).2 with
  | none =>
    rw [hunsigned] at hy
    exact absurd hfinite (by simp [not_isFinite_of_named? hy])
  | some v =>
    obtain ⟨ms, es, n, k, z, hrest, hms, hes, -⟩ := unsignedDecimal?_eq_some_iff.mp hunsigned
    rw [hcs, hrest]
    exact ⟨_, .decimal hsign hms hes⟩

end Numbers

end Telemetry.Binary64
