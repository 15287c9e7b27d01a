import Mathlib
import Telemetry.Text.Split

namespace Telemetry.Text

variable {sep : Char} {cs ds : List Char}

theorem splitOn_eq (sep : Char) (cs : List Char) : splitOn sep cs = cs.splitOn sep := by
  induction cs with
  | nil => rfl
  | cons c cs ih =>
    obtain ⟨part, parts, h⟩ := List.exists_cons_of_ne_nil (List.splitOn_ne_nil sep cs)
    rw [splitOn, ih, List.splitOn_cons_eq_if_modifyHead, h]
    simp

theorem splitEnded_intercalate {parts : List (List Char)} (hsep : ∀ part ∈ parts, sep ∉ part)
    (hlast : parts.getLast? ≠ some []) : splitEnded sep ([sep].intercalate parts) = parts := by
  unfold splitEnded
  rw [splitOn_eq]
  by_cases hnil : parts = []
  · subst hnil
    rfl
  · rw [List.splitOn_intercalate _ hsep hnil]
    exact if_neg hlast

theorem splitFirst_append (h : sep ∉ cs) : splitFirst sep (cs ++ sep :: ds) = some (cs, ds) := by
  induction cs with
  | nil => simp [splitFirst]
  | cons c cs ih =>
    obtain ⟨hc, hcs⟩ := List.ne_and_not_mem_of_not_mem_cons h
    rw [List.cons_append, splitFirst, if_neg hc.symm, ih hcs, Option.map_some]

theorem splitFirst_eq_some_iff {before after : List Char} :
    splitFirst sep cs = some (before, after) ↔ cs = before ++ sep :: after ∧ sep ∉ before := by
  constructor
  · intro h
    induction cs generalizing before with
    | nil => cases h
    | cons c cs ih =>
      rw [splitFirst] at h
      split at h
      · next hc =>
        cases h
        rw [hc]
        exact ⟨rfl, List.not_mem_nil⟩
      · next hc =>
        obtain ⟨⟨b, a⟩, hp, heq⟩ := Option.map_eq_some_iff.mp h
        cases heq
        obtain ⟨rfl, hb⟩ := ih hp
        exact ⟨rfl, List.not_mem_cons_of_ne_of_not_mem (Ne.symm hc) hb⟩
  · intro h
    obtain ⟨rfl, hmem⟩ := h
    exact splitFirst_append hmem

end Telemetry.Text
