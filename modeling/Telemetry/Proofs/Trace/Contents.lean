import Mathlib
import Telemetry.Proofs.Keyed
import Telemetry.Proofs.Trace.Carriers

namespace Telemetry

section Filling

variable {γ : Type} [Carrier γ]

def Carrier.fill (carrier : γ) (entries : List (String × String)) : γ :=
  entries.foldl (fun carrier e ↦ Carrier.set carrier e.1 e.2) carrier

theorem Carrier.fill_concat (carrier : γ) (entries : List (String × String))
    (e : String × String) : Carrier.fill carrier (entries ++ [e]) =
      Carrier.set (Carrier.fill carrier entries) e.1 e.2 := by
  rw [fill, List.foldl_concat, ← fill]

theorem Carrier.get?_fill [LawfulCarrier γ] (carrier : γ) (entries : List (String × String))
    (key : String) : Carrier.get? (Carrier.fill carrier entries) key =
      (Keyed.get? key entries.reverse).or (Carrier.get? carrier key) := by
  induction entries using List.reverseRecOn with
  | nil => rfl
  | append_singleton entries e ih =>
    rw [fill_concat, LawfulCarrier.get?_set, ih, List.reverse_concat, Keyed.get?]
    split <;> rfl

end Filling

theorem TextMap.entries_fill (m : TextMap) (entries : List (String × String)) :
    (Carrier.fill m entries).entries = Keyed.merge m.entries entries := by
  induction entries using List.reverseRecOn with
  | nil => rfl
  | append_singleton entries e ih =>
    rw [Carrier.fill_concat, Keyed.merge_concat, ← ih]
    rfl

def TextMap.toHeaders (m : TextMap) : Headers := ⟨m.entries.map fun e ↦ (e.1, Utf8.encode e.2)⟩

namespace Headers

theorem set_toHeaders (m : TextMap) (key value : String) :
    Carrier.set m.toHeaders key value = (Carrier.set m key value).toHeaders :=
  congrArg Headers.mk (Keyed.put_map Utf8.encode key value m.entries)

theorem fill_toHeaders (m : TextMap) (entries : List (String × String)) :
    Carrier.fill m.toHeaders entries = (Carrier.fill m entries).toHeaders := by
  induction entries using List.reverseRecOn with
  | nil => rfl
  | append_singleton entries e ih =>
    rw [Carrier.fill_concat, ih, set_toHeaders, ← Carrier.fill_concat]

theorem keys_toHeaders (m : TextMap) : Carrier.keys m.toHeaders = Carrier.keys m := by
  change (m.entries.map fun e ↦ (e.1, Utf8.encode e.2)).map (·.1) = m.entries.map (·.1)
  rw [List.map_map]
  rfl

theorem get?_toHeaders (m : TextMap) (key : String) :
    Carrier.get? m.toHeaders key = Carrier.get? m key := by
  change (Keyed.get? key (m.entries.map fun e ↦ (e.1, Utf8.encode e.2))).bind Utf8.decode? =
    Keyed.get? key m.entries
  rw [Keyed.get?_map]
  cases Keyed.get? key m.entries with
  | none => rfl
  | some value => exact Utf8.decode?_encode value

/-- Headers that are filled from the beginning agree with a map that is filled in the same way: on
every key, and on which keys there are. No key stands twice, and the keys are in the order in which
they were set first. In any headers, setting a key changes what this key stands for and leaves alone
all else; there is one entry more if the key was not there at all. -/
theorem in_step_with_map (entries : List (String × String)) (h : Headers) (key value : String) :
    (let headers : Headers := Carrier.fill {} entries
     let map : TextMap := Carrier.fill {} entries
     (∀ k, Carrier.get? headers k = Carrier.get? map k ∧
        Carrier.get? map k = Keyed.get? k entries.reverse) ∧
      (Carrier.keys headers).Nodup ∧
      (∀ k, k ∈ Carrier.keys headers ↔ k ∈ Carrier.keys map) ∧
      Carrier.keys headers = (entries.map (·.1)).eraseDups) ∧
    (let after : Headers := Carrier.set h key value
     Carrier.get? after key = some value ∧
      (∀ other, other ≠ key → Carrier.get? after other = Carrier.get? h other) ∧
      after.entries.filter (·.1 ≠ key) = h.entries.filter (·.1 ≠ key) ∧
      after.entries.length = h.entries.length + if key ∈ Carrier.keys h then 0 else 1) := by
  constructor
  · intro headers map
    have hheaders : headers = map.toHeaders := fill_toHeaders {} entries
    have hkeys : Carrier.keys headers = Carrier.keys map := by rw [hheaders, keys_toHeaders]
    have hentries : map.entries = Keyed.merge [] entries := TextMap.entries_fill {} entries
    have horder : Carrier.keys map = (entries.map (·.1)).eraseDups := by
      rw [← Keyed.keys_merge_nil, ← hentries]
      rfl
    have hnodup : (Carrier.keys map).Nodup := by
      change (map.entries.map (·.1)).Nodup
      rw [hentries]
      apply Keyed.nodup_keys_merge
      exact List.nodup_nil
    rw [hkeys]
    refine ⟨?_, hnodup, fun k ↦ Iff.rfl, horder⟩
    · intro k
      constructor
      · rw [hheaders, get?_toHeaders]
      · rw [Carrier.get?_fill]
        exact Option.or_none
  · intro after
    refine ⟨LawfulCarrier.get?_set_self h key value, ?_, ?_, Keyed.length_put ..⟩
    · intro other hother
      exact LawfulCarrier.get?_set_of_ne h value hother.symm
    · exact Keyed.filter_put (fun value ↦ by simp) _ _

end Headers

end Telemetry
