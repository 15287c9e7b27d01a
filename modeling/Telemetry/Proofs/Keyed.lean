import Mathlib
import Telemetry.Keyed

namespace Telemetry.Keyed

variable {κ α β : Type} [DecidableEq κ]

theorem keys_put (key : κ) (value : α) (es : List (κ × α)) :
    (put key value es).map (·.1) =
      if key ∈ es.map (·.1) then es.map (·.1) else es.map (·.1) ++ [key] := by
  induction es with
  | nil => simp [put]
  | cons e es ih =>
    obtain ⟨k, v⟩ := e
    by_cases hk : k = key
    · simp [put, hk]
    · have hkey : key ≠ k := fun h ↦ hk h.symm
      rw [put, if_neg hk, List.map_cons, ih, List.map_cons]
      simp only [List.mem_cons, hkey, false_or, List.cons_append]
      split <;> rfl

theorem nodup_keys_put {es : List (κ × α)} (h : (es.map (·.1)).Nodup) (key : κ) (value : α) :
    ((put key value es).map (·.1)).Nodup := by
  rw [keys_put]
  split
  · exact h
  · next hkey =>
    rw [← List.concat_eq_append]
    exact h.concat hkey

theorem length_put (key : κ) (value : α) (es : List (κ × α)) :
    (put key value es).length = es.length + if key ∈ es.map (·.1) then 0 else 1 := by
  have hlength := congrArg List.length (keys_put key value es)
  rw [List.length_map] at hlength
  rw [hlength]
  split <;> simp

theorem put_map (f : α → β) (key : κ) (value : α) (es : List (κ × α)) :
    put key (f value) (es.map fun e ↦ (e.1, f e.2)) =
      (put key value es).map fun e ↦ (e.1, f e.2) := by
  induction es with
  | nil => rfl
  | cons e es ih =>
    rw [List.map_cons, put, put, ih]
    split <;> rfl

theorem get?_map (f : α → β) (key : κ) (es : List (κ × α)) :
    get? key (es.map fun e ↦ (e.1, f e.2)) = (get? key es).map f := by
  induction es with
  | nil => rfl
  | cons e es ih =>
    rw [List.map_cons, get?, get?, ih]
    split <;> rfl

theorem get?_append (key : κ) (es others : List (κ × α)) :
    get? key (es ++ others) = (get? key es).or (get? key others) := by
  induction es with
  | nil => rfl
  | cons e es ih =>
    rw [List.cons_append, get?, get?, ih]
    split <;> rfl

theorem get?_eq_none_iff {key : κ} {es : List (κ × α)} :
    get? key es = none ↔ key ∉ es.map (·.1) := by
  induction es with
  | nil => simp [get?]
  | cons e es ih =>
    rw [get?, List.map_cons, List.mem_cons, not_or, ← ih]
    split
    · next h => simp [h]
    · next h => simp [Ne.symm h]

theorem mem_of_get? {key : κ} {value : α} {es : List (κ × α)} (h : get? key es = some value) :
    (key, value) ∈ es := by
  induction es with
  | nil => cases h
  | cons e es ih =>
    rw [get?] at h
    split at h
    · next hkey =>
      cases h
      rw [← hkey]
      exact List.mem_cons_self
    · exact List.mem_cons_of_mem e (ih h)

theorem get?_eq_some_iff {key : κ} {value : α} {es : List (κ × α)} (h : (es.map (·.1)).Nodup) :
    get? key es = some value ↔ (key, value) ∈ es := by
  constructor
  · exact mem_of_get?
  · intro hmem
    cases hget : get? key es with
    | none =>
      have hkey : key ∈ es.map (·.1) := List.mem_map_of_mem hmem
      exact absurd hkey (get?_eq_none_iff.mp hget)
    | some v =>
      cases List.inj_on_of_nodup_map h (mem_of_get? hget) hmem rfl
      rfl

theorem get?_reverse_eq_some_iff {key : κ} {value : α} {es : List (κ × α)} :
    get? key es.reverse = some value ↔
      ∃ before after, es = before ++ (key, value) :: after ∧ key ∉ after.map (·.1) := by
  constructor
  · intro h
    induction es using List.reverseRecOn with
    | nil => cases h
    | append_singleton es e ih =>
      rw [List.reverse_concat, get?] at h
      split at h
      · next hkey =>
        cases h
        exact ⟨es, [], by rw [← hkey], List.not_mem_nil⟩
      · next hkey =>
        obtain ⟨before, after, rfl, hafter⟩ := ih h
        refine ⟨before, after ++ [e], by simp, ?_⟩
        rw [List.map_append, List.mem_append, not_or]
        exact ⟨hafter, by simpa using Ne.symm hkey⟩
  · intro h
    obtain ⟨before, after, rfl, hafter⟩ := h
    have hnone : get? key after.reverse = none := by
      rw [get?_eq_none_iff, List.map_reverse, List.mem_reverse]
      exact hafter
    rw [List.reverse_append, List.reverse_cons, get?_append, get?_append, hnone]
    simp [get?]

theorem get?_reverse {es : List (κ × α)} (h : (es.map (·.1)).Nodup) (key : κ) :
    get? key es.reverse = get? key es := by
  have hreverse : (es.reverse.map (·.1)).Nodup := by
    rw [List.map_reverse, List.nodup_reverse]
    exact h
  apply Option.ext
  intro value
  rw [get?_eq_some_iff hreverse, get?_eq_some_iff h, List.mem_reverse]

section Merging

theorem merge_concat (es others : List (κ × α)) (e : κ × α) :
    merge es (others ++ [e]) = put e.1 e.2 (merge es others) := by
  rw [merge, List.foldl_concat, ← merge]

theorem get?_merge (key : κ) (es others : List (κ × α)) :
    get? key (merge es others) = (get? key others.reverse).or (get? key es) := by
  induction others using List.reverseRecOn with
  | nil => rfl
  | append_singleton others e ih =>
    rw [merge_concat, get?_put, ih, List.reverse_concat, get?]
    split <;> rfl

theorem nodup_keys_merge {es : List (κ × α)} (h : (es.map (·.1)).Nodup) (others : List (κ × α)) :
    ((merge es others).map (·.1)).Nodup := by
  induction others using List.reverseRecOn with
  | nil => exact h
  | append_singleton others e ih =>
    rw [merge_concat]
    exact nodup_keys_put ih e.1 e.2

theorem keys_merge_nil (es : List (κ × α)) :
    (merge [] es).map (·.1) = (es.map (·.1)).eraseDups := by
  induction es using List.reverseRecOn with
  | nil => rfl
  | append_singleton es e ih =>
    rw [merge_concat, keys_put, ih, List.map_append, List.eraseDups_append]
    by_cases he : e.1 ∈ es.map (·.1)
    · simp [List.removeAll, he]
    · simp [List.removeAll, he, List.eraseDups_cons]

end Merging

end Telemetry.Keyed
