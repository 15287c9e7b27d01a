import Mathlib
import Telemetry.Text.Blank

namespace Telemetry.Text

def IsTrimmed (cs : List Char) : Prop :=
  (∀ c ∈ cs.head?, isBlank c = false) ∧ ∀ c ∈ cs.getLast?, isBlank c = false

def IsSolid (cs : List Char) : Prop := ∀ c ∈ cs, isBlank c = false

instance : DecidablePred IsSolid := fun cs ↦ List.decidableBAll (isBlank · = false) cs

variable {cs ds : List Char}

theorem isSolid_nil : IsSolid [] := by simp [IsSolid]

theorem IsSolid.cons {c : Char} (hc : isBlank c = false) (hcs : IsSolid cs) :
    IsSolid (c :: cs) := by
  simpa [IsSolid] using ⟨hc, hcs⟩

theorem IsSolid.append (hc : IsSolid cs) (hd : IsSolid ds) : IsSolid (cs ++ ds) := by
  simpa [IsSolid, or_imp, forall_and] using ⟨hc, hd⟩

theorem isSolid_flatMap {α : Type} {f : α → List Char} {as : List α}
    (h : ∀ a ∈ as, IsSolid (f a)) : IsSolid (as.flatMap f) := by
  intro c hc
  obtain ⟨a, ha, hca⟩ := List.mem_flatMap.mp hc
  exact h a ha c hca

theorem IsSolid.isTrimmed (h : IsSolid cs) : IsTrimmed cs :=
  ⟨fun c hc ↦ h c (List.mem_of_head? hc), fun c hc ↦ h c (List.mem_of_getLast? hc)⟩

theorem trimChars_eq_rdropWhile (cs : List Char) :
    trimChars cs = (cs.dropWhile isBlank).rdropWhile isBlank := rfl

theorem isTrimmed_trimChars (cs : List Char) : IsTrimmed (trimChars cs) := by
  rw [trimChars_eq_rdropWhile]
  constructor
  · intro c hc
    -- What is cut off at the end leaves a prefix, with the same first character.
    obtain ⟨rest, hrest⟩ := List.head?_eq_some_iff.mp hc
    have hkept : (cs.dropWhile isBlank).rdropWhile isBlank ≠ [] := by simp [hrest]
    have hhead := (List.rdropWhile_prefix isBlank (l := cs.dropWhile isBlank)).head hkept
    have hc' : ((cs.dropWhile isBlank).rdropWhile isBlank).head hkept = c := by simp [hrest]
    rw [← hc', hhead]
    exact List.head_dropWhile_not ..
  · intro c hc
    obtain ⟨hkept, rfl⟩ := List.mem_getLast?_eq_getLast hc
    simpa using List.rdropWhile_last_not isBlank (cs.dropWhile isBlank) hkept

theorem IsTrimmed.trimChars_eq (h : IsTrimmed cs) : trimChars cs = cs := by
  have hfront : cs.dropWhile isBlank = cs := by
    cases cs with
    | nil => rfl
    | cons c cs => simp [h.1 c rfl]
  have hback : cs.rdropWhile isBlank = cs := by
    rw [List.rdropWhile_eq_self_iff]
    intro hne
    simpa using h.2 _ (List.getLast?_eq_getLast_of_ne_nil hne)
  rw [trimChars_eq_rdropWhile, hfront, hback]

theorem IsTrimmed.append (hc : IsTrimmed cs) (hd : IsTrimmed ds) : IsTrimmed (cs ++ ds) := by
  constructor
  · intro c h
    cases cs with
    | nil => exact hd.1 c h
    | cons => exact hc.1 c h
  · intro c h
    rw [List.getLast?_append] at h
    cases hl : ds.getLast? with
    | none => exact hc.2 c (by simpa [hl] using h)
    | some d => exact hd.2 c (by simpa [hl] using h)

theorem IsTrimmed.of_ends {mid : List Char} (hc : IsSolid cs) (hd : IsSolid ds) (hcs : cs ≠ [])
    (hds : ds ≠ []) : IsTrimmed (cs ++ mid ++ ds) := by
  constructor
  · rw [List.append_assoc, List.head?_append_of_ne_nil _ hcs]
    exact fun c h ↦ hc c (List.mem_of_head? h)
  · rw [List.getLast?_append_of_ne_nil _ hds]
    exact fun c h ↦ hd c (List.mem_of_getLast? h)

theorem trimChars_eq_nil_iff : trimChars cs = [] ↔ ∀ c ∈ cs, isBlank c = true := by
  rw [trimChars_eq_rdropWhile, List.rdropWhile_eq_nil_iff]
  constructor
  · intro h c hc
    by_contra hb
    have hmem : c ∈ cs.dropWhile isBlank := by
      rw [← List.takeWhile_append_dropWhile (p := isBlank) (l := cs), List.mem_append] at hc
      exact hc.resolve_left fun ht ↦ hb (List.mem_takeWhile_imp ht)
    exact hb (h c hmem)
  · intro h c hc
    exact h c ((List.dropWhile_suffix isBlank).subset hc)

theorem trim_eq_empty_iff {s : String} : trim s = "" ↔ isBlankText s = true := by
  unfold isBlankText
  rw [trim, String.ofList_eq_empty_iff, trimChars_eq_nil_iff, List.all_eq_true]

@[simp] theorem toList_trim (s : String) : (trim s).toList = trimChars s.toList := by
  simp [trim]

theorem trim_eq_self {s : String} (h : IsTrimmed s.toList) : trim s = s := by
  rw [trim, h.trimChars_eq, String.ofList_toList]

end Telemetry.Text
