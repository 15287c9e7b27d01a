import Mathlib
import Telemetry.Credentials.Material

namespace Telemetry.Pem

variable {bs front back : List UInt8} {current : Option Open}

section Lines

def IsEnded (bs : List UInt8) : Prop := ∀ b ∈ bs.getLast?, b = 10 ∨ b = 13

theorem isEnded_nil : IsEnded [] := by simp [IsEnded]

theorem isEnded_singleton {b : UInt8} : IsEnded [b] ↔ b = 10 ∨ b = 13 := by simp [IsEnded]

theorem isEnded_cons {b : UInt8} (h : bs ≠ []) : IsEnded (b :: bs) ↔ IsEnded bs := by
  obtain ⟨c, cs, rfl⟩ := List.exists_cons_of_ne_nil h
  simp [IsEnded, List.getLast?_cons_cons]

theorem lines_cons_of_end {b : UInt8} (h : b = 10 ∨ b = 13) :
    lines (b :: bs) = [b] :: lines bs := by
  rw [lines]
  simp [h]

theorem lines_cons_of_lines {b : UInt8} {line : List UInt8} {more : List (List UInt8)}
    (hb : ¬ (b = 10 ∨ b = 13)) (h : lines bs = line :: more) :
    lines (b :: bs) = (b :: line) :: more := by
  rw [lines, h]
  simp [not_or.mp hb]

theorem lines_ne_nil (h : bs ≠ []) : lines bs ≠ [] := by
  obtain ⟨b, bs, rfl⟩ := List.exists_cons_of_ne_nil h
  rw [lines]
  split
  · simp
  · split <;> simp

theorem lines_append (h : IsEnded front) : lines (front ++ back) = lines front ++ lines back := by
  induction front with
  | nil => rfl
  | cons b front ih =>
    by_cases hb : b = 10 ∨ b = 13
    · have hfront : IsEnded front := by
        by_cases hnil : front = []
        · exact hnil ▸ isEnded_nil
        · exact (isEnded_cons hnil).mp h
      rw [List.cons_append, lines_cons_of_end hb, lines_cons_of_end hb, ih hfront, List.cons_append]
    · have hnil : front ≠ [] := by
        intro hnil
        rw [hnil, isEnded_singleton] at h
        exact hb h
      obtain ⟨line, more, hlines⟩ := List.exists_cons_of_ne_nil (lines_ne_nil hnil)
      have hwhole : lines (front ++ back) = line :: (more ++ lines back) := by
        rw [ih ((isEnded_cons hnil).mp h), hlines, List.cons_append]
      rw [List.cons_append, lines_cons_of_lines hb hwhole, lines_cons_of_lines hb hlines,
        List.cons_append]

/-- A line feed after an unfinished line ends it, and makes no line of its own. -/
theorem lines_concat (h : ¬ IsEnded bs) : ∃ front last, lines bs = front ++ [last] ∧
    lines (bs ++ [10]) = front ++ [last ++ [10]] := by
  induction bs with
  | nil => exact absurd isEnded_nil h
  | cons b bs ih =>
    by_cases hnil : bs = []
    · subst hnil
      rw [isEnded_singleton] at h
      have hend : lines [10] = [[10]] := rfl
      have hlast : lines [b] = [[b]] := by
        rw [lines]
        simp [not_or.mp h, lines]
      refine ⟨[], [b], hlast, ?_⟩
      rw [List.cons_append, List.nil_append, lines_cons_of_lines h hend]
      rfl
    · rw [isEnded_cons hnil] at h
      obtain ⟨front, last, hlines, hended⟩ := ih h
      by_cases hb : b = 10 ∨ b = 13
      · refine ⟨[b] :: front, last, ?_, ?_⟩
        · rw [lines_cons_of_end hb, hlines, List.cons_append]
        · rw [List.cons_append, lines_cons_of_end hb, hended, List.cons_append]
      · -- The byte goes in front of the first line, which may be the last one.
        cases front with
        | nil => exact ⟨[], b :: last, lines_cons_of_lines hb hlines, lines_cons_of_lines hb hended⟩
        | cons line front =>
          exact ⟨(b :: line) :: front, last, lines_cons_of_lines hb hlines,
            lines_cons_of_lines hb hended⟩

end Lines

section Steps

theorem isPrefixOf_concat {p line : List UInt8} (h : p.getLast? ≠ some 10) :
    p.isPrefixOf (line ++ [10]) = p.isPrefixOf line := by
  rw [Bool.eq_iff_iff, List.isPrefixOf_iff_prefix, List.isPrefixOf_iff_prefix,
    List.prefix_concat_iff]
  constructor
  · rintro (rfl | hp)
    · simp at h
    · exact hp
  · exact Or.inr

theorem getLast?_closer (o : Open) : (closer o).getLast? = some 45 := by
  have hdashes : dashes.getLast? = some 45 := by decide
  rw [closer, List.getLast?_append, hdashes, Option.some_or]

theorem step_concat {line : List UInt8} {found : Option Section}
    (h : step current line = .ok (none, found)) :
    step current (line ++ [10]) = .ok (none, found) := by
  have hopener : opener.getLast? ≠ some 10 := by decide
  unfold step at h ⊢
  rw [isPrefixOf_concat hopener]
  split at h
  · -- An opening line leaves its section open.
    cases hlabel : opened line <;> rw [hlabel] at h <;> cases h
  · next hline =>
    rw [if_neg hline]
    cases current with
    | none => exact h
    | some o =>
      have hcloser : (closer o).getLast? ≠ some 10 := by
        rw [getLast?_closer]
        decide
      dsimp only at h ⊢
      rw [isPrefixOf_concat hcloser]
      split at h
      · next hclosed => rwa [if_pos hclosed]
      · cases h

theorem readLines_cons {line : List UInt8} {rest : List (List UInt8)} {next : Option Open}
    {found : Option Section} (h : step current line = .ok (next, found)) :
    readLines current (line :: rest) =
      (found.toList ++ (readLines next rest).1, (readLines next rest).2) := by
  rw [readLines, h]

theorem step_of_readLines {line : List UInt8} {rest : List (List UInt8)}
    (h : (readLines current (line :: rest)).2 = none) :
    ∃ next found, step current line = .ok (next, found) ∧ (readLines next rest).2 = none := by
  rw [readLines] at h
  split at h
  · cases h
  · next next found hstep => exact ⟨next, found, hstep, h⟩

theorem eq_none_of_readLines (h : (readLines current []).2 = none) : current = none := by
  cases current with
  | none => rfl
  | some o => cases h

/-- Lines without a fault leave no section open, so that what follows is read as if it stood
alone. -/
theorem readLines_append {front back : List (List UInt8)}
    (h : (readLines current front).2 = none) : readLines current (front ++ back) =
      ((readLines current front).1 ++ (readLines none back).1, (readLines none back).2) := by
  induction front generalizing current with
  | nil =>
    obtain rfl := eq_none_of_readLines h
    rfl
  | cons line front ih =>
    obtain ⟨next, found, hstep, hrest⟩ := step_of_readLines h
    rw [List.cons_append, readLines_cons hstep, readLines_cons hstep, ih hrest, List.append_assoc]

theorem readLines_concat {front : List (List UInt8)} {last : List UInt8}
    (h : (readLines current (front ++ [last])).2 = none) :
    readLines current (front ++ [last ++ [10]]) = readLines current (front ++ [last]) := by
  induction front generalizing current with
  | nil =>
    obtain ⟨next, found, hstep, hrest⟩ := step_of_readLines h
    obtain rfl := eq_none_of_readLines hrest
    rw [List.nil_append, List.nil_append, readLines_cons hstep, readLines_cons (step_concat hstep)]
  | cons line front ih =>
    obtain ⟨next, found, hstep, hrest⟩ := step_of_readLines h
    rw [List.cons_append, List.cons_append, readLines_cons hstep, readLines_cons hstep, ih hrest]

theorem read_append (hended : IsEnded front) (h : (read front).2 = none) :
    read (front ++ back) = ((read front).1 ++ (read back).1, (read back).2) := by
  rw [read, lines_append hended]
  exact readLines_append h

theorem read_concat (h : (read bs).2 = none) : read (bs ++ [10]) = read bs := by
  by_cases hended : IsEnded bs
  · have hblank : read [10] = ([], none) := by decide
    rw [read_append hended h, hblank, List.append_nil, ← h]
  · obtain ⟨front, last, hlines, hconcat⟩ := lines_concat hended
    rw [read, hlines] at h
    rw [read, read, hlines, hconcat]
    exact readLines_concat h

end Steps

end Telemetry.Pem

namespace Telemetry.Credentials

variable {cert key : List UInt8}

theorem joined_eq_append (cert key : List UInt8) : joined cert key = joined cert [] ++ key := by
  rw [joined, joined, List.append_nil]

theorem isEnded_joined_nil (cert : List UInt8) : Pem.IsEnded (joined cert []) := by
  rw [joined, List.append_nil]
  split
  · next hlast => simp [Pem.IsEnded, hlast]
  · simp [Pem.IsEnded]

theorem read_joined_nil (h : (Pem.read cert).2 = none) :
    Pem.read (joined cert []) = Pem.read cert := by
  rw [joined, List.append_nil]
  split
  · rfl
  · exact Pem.read_concat h

theorem read_joined (h : (Pem.read cert).2 = none) : Pem.read (joined cert key) =
    ((Pem.read cert).1 ++ (Pem.read key).1, (Pem.read key).2) := by
  have hnil := read_joined_nil h
  rw [joined_eq_append, Pem.read_append (isEnded_joined_nil cert) (hnil ▸ h), hnil]

end Telemetry.Credentials
