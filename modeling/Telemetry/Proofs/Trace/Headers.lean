import Mathlib
import Telemetry.Proofs.Text.Split
import Telemetry.Proofs.Text.Trim
import Telemetry.Trace.Propagation

namespace Telemetry

namespace Hex

variable {c : Char} {n width : Nat}

theorem digit?_lowerDigit (h : n < 16) : digit? (lowerDigit n) = some n :=
  (by decide : ∀ n < 16, digit? (lowerDigit n) = some n) n h

theorem forall_mem_fixed {p : Char → Prop} (h : ∀ d < 16, p (lowerDigit d)) :
    ∀ c ∈ fixed width n, p c := by
  induction width generalizing n with
  | zero => simp [fixed]
  | succ width ih =>
    rw [fixed, List.forall_mem_append, List.forall_mem_singleton]
    exact ⟨ih, h _ (Nat.mod_lt _ (by decide))⟩

theorem foldlM_fixed (hn : n < 16 ^ width) :
    (fixed width n).foldlM (fun n c ↦ (digit? c).map (16 * n + ·)) 0 = some n := by
  induction width generalizing n with
  | zero =>
    obtain rfl : n = 0 := by simpa using hn
    rfl
  | succ width ih =>
    have hhigh : n / 16 < 16 ^ width := by
      rw [Nat.pow_succ] at hn
      omega
    rw [fixed, List.foldlM_append, ih hhigh]
    simp [digit?_lowerDigit (Nat.mod_lt n (by decide : 0 < 16)), Nat.div_add_mod]

theorem value?_fixed (hwidth : width ≠ 0) (hn : n < 16 ^ width) :
    value? (fixed width n) = some n := by
  have hne : (fixed width n).isEmpty = false := by
    obtain ⟨w, rfl⟩ := Nat.exists_eq_succ_of_ne_zero hwidth
    simp [fixed]
  rw [value?, hne, foldlM_fixed hn]
  rfl

end Hex

namespace TraceParent

open SpanContext

theorem number?_eq {bound : Nat} {cs : List Char} (h : cs.head? ≠ some '+') :
    number? bound cs = (Hex.value? cs).filter (· < bound) := by
  unfold number?
  split
  · simp at h
  · rfl

theorem number?_fixed {bound width n : Nat} (hwidth : width ≠ 0) (hn : n < 16 ^ width)
    (hbound : n < bound) : number? bound (Hex.fixed width n) = some n := by
  have hsign : (Hex.fixed width n).head? ≠ some '+' := fun h ↦
    Hex.forall_mem_fixed (p := (· ≠ '+')) (by decide) _ (List.mem_of_head? h) rfl
  rw [number?_eq hsign, Hex.value?_fixed hwidth hn]
  simpa using hbound

theorem id?_fixed {width digits : Nat} (x : BitVec width) (hdigits : digits ≠ 0)
    (hwidth : 2 ^ width ≤ 16 ^ digits) : id? width (Hex.fixed digits x.toNat) = some x := by
  have hsmall : (Hex.fixed digits x.toNat).any (fun c ↦ 'A' ≤ c && c ≤ 'Z') = false := by
    rw [List.any_eq_false]
    exact Hex.forall_mem_fixed (by decide)
  have hpow : Nat.pow 2 width = 2 ^ width := rfl
  rw [id?, hsmall, hpow, number?_fixed hdigits (x.isLt.trans_le hwidth) x.isLt]
  simp

def numbers (s : SpanContext) : List (List Char) :=
  [['0', '0'], Hex.fixed 32 s.traceId.toNat, Hex.fixed 16 s.spanId.toNat,
    ['0', if s.sampled then '1' else '0']]

theorem toList_render (s : SpanContext) : (render s).toList = ['-'].intercalate (numbers s) := by
  unfold render traceText spanText numbers
  cases s.sampled <;> simp [List.intercalate]

theorem forall_mem_numbers {p : Char → Prop} (h : ∀ d < 16, p (Hex.lowerDigit d))
    (s : SpanContext) : ∀ number ∈ numbers s, ∀ c ∈ number, p c := by
  have h0 : p '0' := h 0 (by decide)
  have h1 : p '1' := h 1 (by decide)
  simp only [numbers, List.forall_mem_cons, List.not_mem_nil, false_imp_iff, implies_true, and_true]
  exact ⟨⟨h0, h0⟩, Hex.forall_mem_fixed h, Hex.forall_mem_fixed h, h0, by split <;> assumption⟩

theorem isSolid_render (s : SpanContext) : Text.IsSolid (render s).toList := by
  have hnumber : ∀ number ∈ numbers s, Text.IsSolid number :=
    forall_mem_numbers (p := (Text.isBlank · = false)) (by decide) s
  simp only [numbers, List.forall_mem_cons] at hnumber
  obtain ⟨hversion, htrace, hspan, hflags, -⟩ := hnumber
  have hdash : Text.IsSolid ['-'] := by decide
  rw [toList_render]
  simpa [numbers, List.intercalate] using hversion.append (hdash.append
    (htrace.append (hdash.append (hspan.append (hdash.append hflags)))))

/-- What is read back of a context: of its flags the one that counts, and no entries. -/
theorem parse?_render (s : SpanContext) : parse? (render s) = some
    { traceId := s.traceId
      spanId := s.spanId
      flags := if s.sampled then 1 else 0
      remote := true } := by
  have hdash : ∀ number ∈ numbers s, '-' ∉ number := fun number hnumber hmem ↦
    forall_mem_numbers (p := (· ≠ '-')) (by decide) s number hnumber _ hmem rfl
  unfold parse?
  rw [(isSolid_render s).isTrimmed.trimChars_eq, toList_render,
    Text.splitEnded_intercalate hdash (by simp [numbers])]
  dsimp only [numbers]
  rw [id?_fixed s.traceId (by decide) (by decide), id?_fixed s.spanId (by decide) (by decide)]
  cases s.sampled <;> rfl

end TraceParent

namespace TraceState

def WellFormed (s : TraceState) : Prop :=
  ∀ e ∈ s.entries, isKey e.1.toList = true ∧ isValue e.2 = true

instance : DecidablePred WellFormed := fun s ↦
  inferInstanceAs (Decidable (∀ e ∈ s.entries, isKey e.1.toList = true ∧ isValue e.2 = true))

theorem isKeyChar_of_isKey {cs : List Char} (h : isKey cs = true) :
    ∀ c ∈ cs, isKeyChar c = true ∨ c = '@' := by
  have hpart {cs : List Char} (h : isKeyPart cs = true) : ∀ c ∈ cs, isKeyChar c = true := by
    rw [isKeyPart, Bool.and_eq_true] at h
    exact List.all_eq_true.mp h.2
  rw [isKey, Bool.and_eq_true] at h
  obtain ⟨-, h⟩ := h
  split at h
  · exact fun c hc ↦ .inl (hpart h c hc)
  · next tenant system hsplit =>
    simp only [Bool.and_eq_true] at h
    obtain ⟨⟨⟨-, htenant⟩, hsystem⟩, -⟩ := h
    rw [(Text.splitFirst_eq_some_iff.mp hsplit).1]
    intro c hc
    rcases List.mem_append.mp hc with hc | hc
    · exact .inl (hpart htenant c hc)
    · rcases List.mem_cons.mp hc with rfl | hc
      · exact .inr rfl
      · exact .inl (hpart hsystem c hc)

theorem not_mem_of_isKey {cs : List Char} (h : isKey cs = true) : ',' ∉ cs ∧ '=' ∉ cs := by
  have hcomma : ¬ (isKeyChar ',' = true ∨ ',' = '@') := by decide
  have hequals : ¬ (isKeyChar '=' = true ∨ '=' = '@') := by decide
  exact ⟨fun hmem ↦ hcomma (isKeyChar_of_isKey h _ hmem),
    fun hmem ↦ hequals (isKeyChar_of_isKey h _ hmem)⟩

theorem not_mem_of_isValue {v : String} (h : isValue v = true) :
    ',' ∉ v.toList ∧ '=' ∉ v.toList := by
  simp only [isValue, Bool.and_eq_true, List.all_eq_true] at h
  constructor <;> intro hmem <;> simpa using h.2 _ hmem

def spelled (e : String × String) : List Char := e.1.toList ++ '=' :: e.2.toList

theorem toList_render (s : TraceState) :
    s.render.toList = [','].intercalate (s.entries.map spelled) := by
  have hspelled : spelled = fun e ↦ e.1.toList ++ '=' :: e.2.toList := rfl
  simp [render, String.toList_intercalate, hspelled, Function.comp_def]

theorem entry?_spelled {e : String × String} (hkey : isKey e.1.toList = true)
    (hvalue : isValue e.2 = true) : entry? (spelled e) = some e := by
  have hdrop : e.2.toList.dropWhile (· == '=') = e.2.toList := by
    rw [List.dropWhile_eq_self_iff]
    intro hlength heq
    have hhead : e.2.toList[0] = '=' := by simpa using heq
    exact (not_mem_of_isValue hvalue).2 (hhead ▸ List.getElem_mem hlength)
  unfold entry? spelled
  rw [Text.splitFirst_append (not_mem_of_isKey hkey).2]
  simp [hdrop, hkey, hvalue]

theorem mapM_entry?_spelled {es : List (String × String)}
    (h : ∀ e ∈ es, isKey e.1.toList = true ∧ isValue e.2 = true) :
    (es.map spelled).mapM entry? = some es := by
  induction es with
  | nil => rfl
  | cons e es ih =>
    obtain ⟨⟨hkey, hvalue⟩, hes⟩ := List.forall_mem_cons.mp h
    rw [List.map_cons, List.mapM_cons, entry?_spelled hkey hvalue, ih hes]
    rfl

theorem parse?_render {s : TraceState} (h : s.WellFormed) : parse? s.render = some s := by
  have hcomma : ∀ part ∈ s.entries.map spelled, ',' ∉ part := by
    intro part hpart
    obtain ⟨e, he, rfl⟩ := List.mem_map.mp hpart
    obtain ⟨hkey, hvalue⟩ := h e he
    simp [spelled, (not_mem_of_isKey hkey).1, (not_mem_of_isValue hvalue).1]
  have hlast : (s.entries.map spelled).getLast? ≠ some [] := by
    intro hnil
    obtain ⟨e, -, he⟩ := List.mem_map.mp (List.mem_of_getLast? hnil)
    simp [spelled] at he
  rw [parse?, toList_render, Text.splitEnded_intercalate hcomma hlast, mapM_entry?_spelled h]
  rfl

end TraceState

end Telemetry
