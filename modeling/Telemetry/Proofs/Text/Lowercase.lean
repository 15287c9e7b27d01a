import Mathlib
import Telemetry.Text.Lowercase

namespace Telemetry.Text

variable {c : Char} {before cs : List Char} {s w : String}

def IsAscii (cs : List Char) : Prop := ∀ c ∈ cs, c.toNat < 0x80

/-- The texts differ in the case of ASCII letters at most. -/
def EqIgnoringCase (s w : String) : Prop :=
  s.toList.map Char.toLower = w.toList.map Char.toLower

/-- ASCII text in lower case, without a k. -/
def IsKeyword (w : String) : Prop :=
  ∀ c ∈ w.toList, c.toNat < 0x80 ∧ c ≠ 'k' ∧ c.toLower = c

instance (s w : String) : Decidable (EqIgnoringCase s w) :=
  inferInstanceAs (Decidable (s.toList.map Char.toLower = w.toList.map Char.toLower))

section Characters

theorem toLower_of_not_ascii (h : 0x80 ≤ c.toNat) : c.toLower = c := by
  have hc : ¬ (c.val ≥ 'A'.val ∧ c.val ≤ 'Z'.val) := by
    rintro ⟨-, hle⟩
    have hZ : c.toNat ≤ 0x5A := hle
    omega
  rw [Char.toLower, dif_neg hc]

theorem ascii_of_toLower (h : c.toLower.toNat < 0x80) : c.toNat < 0x80 := by
  by_contra hc
  rw [toLower_of_not_ascii (Nat.le_of_not_lt hc)] at h
  exact hc h

/-- A run of capitals beyond ASCII has its small letters beyond ASCII too, save for the Kelvin
sign. -/
theorem caseRuns_beyond : ∀ r ∈ caseRuns, r.last < 0x80 ∨
    (r.first = 0x212A ∧ r.last = 0x212A ∧ r.shift = -8383) ∨
    0x80 ≤ r.first + r.shift ∧ (r.last + r.shift < 0xD800 ∨
      0xDFFF < r.first + r.shift ∧ r.last + r.shift < 0x110000) := by
  decide +kernel

theorem toNat_ofNat_of_valid {n : Nat} (h : n < 0xD800 ∨ 0xDFFF < n ∧ n < 0x110000) :
    (Char.ofNat n).toNat = n := by
  rw [Char.toNat_ofNat, if_pos h]

theorem lowerChar_of_not_ascii (h : 0x80 ≤ c.toNat) :
    ∃ d ∈ lowerChar c, 0x80 ≤ d.toNat ∨ d = 'k' := by
  rw [lowerChar, if_neg (Nat.not_lt_of_le h)]
  split
  · exact ⟨'\u0307', by simp, .inl (by decide)⟩
  · split
    · next r hr =>
      refine ⟨_, List.mem_singleton_self _, ?_⟩
      have hcovers : r.covers c.toNat = true := by simpa using List.find?_some hr
      simp only [CaseRun.covers, Bool.and_eq_true, decide_eq_true_eq] at hcovers
      obtain ⟨⟨hfirst, hlast⟩, -⟩ := hcovers
      rcases caseRuns_beyond r (List.mem_of_find?_eq_some hr) with hascii | hkelvin | hbeyond
      · omega
      · obtain ⟨hone, htwo, hshift⟩ := hkelvin
        have hc : c.toNat = 0x212A := by omega
        rw [hc, hshift]
        exact .inr (by decide)
      · obtain ⟨hlow, hvalid⟩ := hbeyond
        rw [toNat_ofNat_of_valid (by omega)]
        exact .inl (by omega)
    · exact ⟨c, List.mem_singleton_self c, .inl h⟩

end Characters

section Texts

theorem lowerAfter_of_ascii (h : IsAscii cs) : lowerAfter before cs = cs.map Char.toLower := by
  induction cs generalizing before with
  | nil => rfl
  | cons c cs ih =>
    obtain ⟨hc, hcs⟩ := List.forall_mem_cons.mp h
    have hsigma : c ≠ 'Σ' := by
      rintro rfl
      exact absurd hc (by decide)
    rw [lowerAfter, if_neg hsigma, lowerChar, if_pos hc, ih hcs, List.map_cons,
      List.singleton_append]

theorem lowerChars_of_ascii (h : IsAscii cs) : lowerChars cs = cs.map Char.toLower :=
  lowerAfter_of_ascii h

theorem isAscii_of_lowerAfter (h : ∀ d ∈ lowerAfter before cs, d.toNat < 0x80 ∧ d ≠ 'k') :
    IsAscii cs := by
  induction cs generalizing before with
  | nil => exact fun c hc ↦ absurd hc List.not_mem_nil
  | cons c cs ih =>
    rw [lowerAfter] at h
    obtain ⟨hhead, hrest⟩ := List.forall_mem_append.mp h
    refine List.forall_mem_cons.mpr ⟨?_, ih hrest⟩
    by_contra hc
    by_cases hsigma : c = 'Σ'
    · rw [if_pos hsigma] at hhead
      split at hhead
      · exact absurd (hhead 'ς' (List.mem_singleton_self _)).1 (by decide)
      · exact absurd (hhead 'σ' (List.mem_singleton_self _)).1 (by decide)
    · rw [if_neg hsigma] at hhead
      obtain ⟨d, hd, hbeyond⟩ := lowerChar_of_not_ascii (Nat.le_of_not_lt hc)
      obtain ⟨hascii, hk⟩ := hhead d hd
      rcases hbeyond with hbeyond | hbeyond
      · omega
      · exact hk hbeyond

theorem IsKeyword.map_toLower (hw : IsKeyword w) : w.toList.map Char.toLower = w.toList :=
  (List.map_congr_left fun c hc ↦ (hw c hc).2.2).trans (List.map_id _)

theorem EqIgnoringCase.isAscii (h : EqIgnoringCase s w) (hw : IsKeyword w) : IsAscii s.toList := by
  intro c hc
  apply ascii_of_toLower
  have hmem : c.toLower ∈ w.toList := by
    rw [← hw.map_toLower, ← h]
    exact List.mem_map_of_mem hc
  exact (hw _ hmem).1

theorem lower_eq_iff (hw : IsKeyword w) : lower s = w ↔ EqIgnoringCase s w := by
  have htoList : lower s = w ↔ lowerChars s.toList = w.toList := by
    rw [lower, ← String.toList_inj, String.toList_ofList]
  rw [htoList, EqIgnoringCase, hw.map_toLower]
  constructor
  · intro h
    have hseen : ∀ d ∈ lowerAfter [] s.toList, d.toNat < 0x80 ∧ d ≠ 'k' := by
      intro d hd
      obtain ⟨hd, hk, -⟩ := hw d (h ▸ hd)
      exact ⟨hd, hk⟩
    rw [← lowerChars_of_ascii (isAscii_of_lowerAfter hseen), h]
  · intro h
    have hcase : EqIgnoringCase s w := by rw [EqIgnoringCase, h, hw.map_toLower]
    rw [lowerChars_of_ascii (hcase.isAscii hw), h]

/-- The Kelvin sign is why no keyword may have a k. -/
example : lower "o\u212A" = "ok" ∧ ¬ EqIgnoringCase "o\u212A" "ok" := by decide

end Texts

end Telemetry.Text
