import Mathlib
import Telemetry.Json.Parser

namespace Telemetry

section Results

variable {ε α β : Type} {x : Except ε α} {b : β}

theorem bind_eq_ok_iff {f : α → Except ε β} :
    x >>= f = .ok b ↔ ∃ a, x = .ok a ∧ f a = .ok b := by
  cases x <;> simp [bind, Except.bind]

@[simp]
theorem ok_bind (a : α) (f : α → Except ε β) : (Except.ok a >>= f) = f a := rfl

theorem map_eq_ok_iff {f : α → β} : x.map f = .ok b ↔ ∃ a, x = .ok a ∧ f a = b := by
  cases x <;> simp [Except.map]

end Results

namespace Json

open Digits (isDigit)

theorem length_skipSpace_le (cs : List Char) : (skipSpace cs).length ≤ cs.length :=
  List.length_dropWhile_le ..

@[simp]
theorem skipSpace_skipSpace (cs : List Char) : skipSpace (skipSpace cs) = skipSpace cs := by
  unfold skipSpace
  exact List.dropWhile_idempotent _ cs

theorem length_of_skipSpace {cs rest : List Char} {c : Char} (h : skipSpace cs = c :: rest) :
    rest.length < cs.length := by
  have hle := length_skipSpace_le cs
  rw [h, List.length_cons] at hle
  omega

theorem digit_ne {c : Char} (h : isDigit c) : c ≠ 'n' ∧ c ≠ 't' ∧ c ≠ 'f' ∧ c ≠ '"' ∧ c ≠ '-' ∧
    c ≠ '[' ∧ c ≠ '{' ∧ c ≠ ']' ∧ c ≠ '}' := by
  refine ⟨?_, ?_, ?_, ?_, ?_, ?_, ?_, ?_, ?_⟩
  all_goals
    rintro rfl
    revert h
    decide

theorem length_expect {es cs rest : List Char} (h : expect es cs = .ok rest) :
    rest.length ≤ cs.length := by
  induction es generalizing cs with
  | nil =>
    cases h
    exact le_rfl
  | cons e es ih =>
    cases cs with
    | nil => cases h
    | cons c cs =>
      rw [expect] at h
      split at h
      · exact (ih h).trans (Nat.le_succ _)
      · cases h

theorem length_skipString {cs rest : List Char} (h : skipString cs = .ok rest) :
    rest.length < cs.length := by
  fun_induction skipString cs with
  | case1 => cases h
  | case2 cs =>
    cases h
    exact Nat.lt_succ_self _
  | case3 cs n hn _ ih =>
    have hlt := ih h
    rw [List.length_drop] at hlt
    rw [List.length_cons]
    omega
  | case4 => cases h
  | case5 => cases h
  | case6 c cs _ _ _ ih => exact (ih h).trans (Nat.lt_succ_self _)

theorem unicodeEscape_cases {cs : List Char} {c : Char} {m : Nat}
    (h : unicodeEscape cs = .ok (c, m)) : (∃ n, hexFour cs = .ok n) ∧
      (m = 4 ∨ ∃ rest n, m = 10 ∧ cs.drop 4 = '\\' :: 'u' :: rest ∧ hexFour rest = .ok n) := by
  obtain ⟨n, hfour, h⟩ := bind_eq_ok_iff.mp h
  refine ⟨⟨n, hfour⟩, ?_⟩
  split at h
  · cases h
  split at h
  · exact .inl (Prod.mk.inj (Except.ok.inj h)).2.symm
  split at h
  · cases h
  · cases h
  · next rest hdrop =>
    obtain ⟨k, hk, h⟩ := bind_eq_ok_iff.mp h
    split at h
    · exact .inr ⟨rest, k, (Prod.mk.inj (Except.ok.inj h)).2.symm, hdrop, hk⟩
    · cases h
  · cases h

theorem skipString_backslash {cs : List Char} {n : Nat} (h : escapeLength cs = .ok n) :
    skipString ('\\' :: cs) = skipString (cs.drop n) := by
  rw [skipString, if_neg (by decide), if_pos rfl, h]

theorem escapeLength_u {cs : List Char} {n : Nat} (h : hexFour cs = .ok n) :
    escapeLength ('u' :: cs) = .ok 5 := by
  rw [escapeLength, h]
  rfl

theorem skipString_escape {cs : List Char} {c : Char} {n : Nat} (h : escape cs = .ok (c, n)) :
    skipString ('\\' :: cs) = skipString (cs.drop n) := by
  unfold escape at h
  split at h
  · cases h
  · next rest =>
    obtain ⟨⟨c, m⟩, hunicode, hm⟩ := map_eq_ok_iff.mp h
    cases hm
    obtain ⟨⟨k, hk⟩, rfl | ⟨more, k', rfl, hdrop, hk'⟩⟩ := unicodeEscape_cases hunicode
    · exact skipString_backslash (escapeLength_u hk)
    · rw [skipString_backslash (escapeLength_u hk), List.drop_succ_cons, hdrop,
        skipString_backslash (escapeLength_u hk')]
      have hmore : rest.drop 10 = (rest.drop 4).drop 6 := by rw [List.drop_drop]
      rw [List.drop_succ_cons, List.drop_succ_cons, hmore, hdrop]
      rfl
  · next c rest hu =>
    split at h
    · next d hd =>
      cases h
      apply skipString_backslash
      rw [escapeLength]
      · simp [hd]
      · exact hu
    · cases h

theorem skipString_of_readString {cs s rest : List Char} (h : readString cs = .ok (s, rest)) :
    skipString cs = .ok rest := by
  fun_induction readString cs generalizing s with
  | case1 => cases h
  | case2 cs =>
    cases h
    simp [skipString]
  | case3 cs c n hescape _ ih =>
    rw [skipString_escape hescape]
    obtain ⟨⟨s, more⟩, hread, hmore⟩ := map_eq_ok_iff.mp h
    cases hmore
    exact ih hread
  | case4 => cases h
  | case5 => cases h
  | case6 c cs hquote hback hcontrol ih =>
    rw [skipString, if_neg hquote, if_neg hback, if_neg hcontrol]
    obtain ⟨⟨s, more⟩, hread, hmore⟩ := map_eq_ok_iff.mp h
    cases hmore
    exact ih hread

theorem length_readString {cs s rest : List Char} (h : readString cs = .ok (s, rest)) :
    rest.length < cs.length :=
  length_skipString (skipString_of_readString h)

theorem length_dropWhile_lt {q : Char → Bool} {cs : List Char} (h : cs.takeWhile q ≠ []) :
    (cs.dropWhile q).length < cs.length := by
  have hlength := congrArg List.length (List.takeWhile_append_dropWhile (p := q) (l := cs))
  rw [List.length_append] at hlength
  have hpos := List.length_pos_of_ne_nil h
  omega

theorem length_skipExponent {cs rest : List Char} (h : skipExponent cs = .ok rest) :
    rest.length ≤ cs.length := by
  have hdigits : ∀ ds : List Char, (if (ds.takeWhile isDigit).isEmpty then .error .malformed
      else .ok (ds.dropWhile isDigit) : Except Fault (List Char)) = .ok rest →
      rest.length ≤ ds.length := by
    intro ds hds
    split at hds
    · cases hds
    · cases hds
      exact List.length_dropWhile_le ..
  unfold skipExponent at h
  split at h
  · exact (hdigits _ h).trans (Nat.le_succ _)
  · exact (hdigits _ h).trans (Nat.le_succ _)
  · exact hdigits _ h

theorem length_skipScale {cs rest : List Char} (h : skipScale cs = .ok rest) :
    rest.length ≤ cs.length := by
  unfold skipScale at h
  split at h
  · exact (length_skipExponent h).trans (Nat.le_succ _)
  · exact (length_skipExponent h).trans (Nat.le_succ _)
  · cases h
    exact le_rfl

theorem length_skipNumber {cs rest : List Char} (h : skipNumber cs = .ok rest) :
    rest.length < cs.length := by
  unfold skipNumber at h
  split at h
  · cases h
  · cases h
  next hempty _ =>
  have hlt := length_dropWhile_lt hempty
  split at h
  · next more hmore =>
    split at h
    · cases h
    · have hle := (length_skipScale h).trans (List.length_dropWhile_le ..)
      rw [hmore, List.length_cons] at hlt
      omega
  · exact (length_skipScale h).trans_lt hlt

theorem skipExponent_of_readExponent {cs rest : List Char} {e : Int}
    (h : readExponent cs = .ok (e, rest)) : skipExponent cs = .ok rest := by
  unfold readExponent at h
  split at h
  next negative ds hsign =>
  have hskip : skipExponent cs =
      if (ds.takeWhile isDigit).isEmpty then .error .malformed else .ok (ds.dropWhile isDigit) := by
    unfold skipExponent
    split at hsign
    · cases hsign
      rfl
    · cases hsign
      rfl
    · cases hsign
      split
      · simp_all
      · simp_all
  dsimp only at h
  rw [hskip]
  split at h
  · cases h
  · next hempty =>
    rw [if_neg hempty]
    cases h
    rfl

theorem skipScale_of_readScale {cs rest : List Char} {e : Int}
    (h : readScale cs = .ok (e, rest)) : skipScale cs = .ok rest := by
  unfold readScale at h
  unfold skipScale
  split at h
  · exact skipExponent_of_readExponent h
  · exact skipExponent_of_readExponent h
  · cases h
    rfl

variable [Rounding] {negative : Bool} {cs rest whole fraction : List Char} {n : Number}

theorem readScaled_eq_ok_iff : readScaled negative whole fraction cs = .ok (n, rest) ↔
    ∃ e, readScale cs = .ok (e, rest) ∧ real negative whole fraction e = .ok n := by
  refine bind_eq_ok_iff.trans ?_
  constructor
  · intro h
    obtain ⟨⟨e, left⟩, hscale, h⟩ := h
    obtain ⟨k, hreal, hk⟩ := bind_eq_ok_iff.mp h
    cases hk
    exact ⟨e, hscale, hreal⟩
  · intro h
    obtain ⟨e, hscale, hreal⟩ := h
    exact ⟨(e, rest), hscale, bind_eq_ok_iff.mpr ⟨n, hreal, rfl⟩⟩

theorem readNumber_cases (h : readNumber negative cs = .ok (n, rest)) :
    (∃ whole fraction more, readScaled negative whole fraction more = .ok (n, rest) ∧
      skipNumber cs = skipScale more) ∨
    (integer? negative (Digits.value (cs.takeWhile isDigit)) = some n ∧ skipNumber cs = .ok rest) := by
  unfold readNumber at h
  unfold skipNumber
  dsimp only at h
  split at h
  · cases h
  · cases h
  next hempty hzero =>
  split at h
  · next more hpoint =>
    split at h
    · cases h
    · next hfraction =>
      refine .inl ⟨_, _, _, h, ?_⟩
      rw [hpoint]
      exact if_neg hfraction
  · next more he =>
    rw [he] at h ⊢
    exact .inl ⟨_, _, _, h, rfl⟩
  · next more hE =>
    rw [hE] at h ⊢
    exact .inl ⟨_, _, _, h, rfl⟩
  next hpoint he hE =>
  have hscale : readScale (cs.dropWhile isDigit) = .ok (0, cs.dropWhile isDigit) := by
    unfold readScale
    split
    · next more hmore => exact absurd hmore (he more)
    · next more hmore => exact absurd hmore (hE more)
    · rfl
  split at h
  · next k hk =>
    cases h
    refine .inr ⟨hk, ?_⟩
    split
    · next more hmore => exact absurd hmore (hpoint more)
    · exact skipScale_of_readScale hscale
  · obtain ⟨k, hk, hn⟩ := bind_eq_ok_iff.mp h
    cases hn
    refine .inl ⟨_, [], _, readScaled_eq_ok_iff.mpr ⟨0, hscale, hk⟩, ?_⟩
    split
    · next more hmore => exact absurd hmore (hpoint more)
    · rfl

theorem skipNumber_of_readNumber (h : readNumber negative cs = .ok (n, rest)) :
    skipNumber cs = .ok rest := by
  obtain ⟨whole, fraction, more, hscaled, hskip⟩ | ⟨-, hskip⟩ := readNumber_cases h
  · obtain ⟨e, hscale, -⟩ := readScaled_eq_ok_iff.mp hscaled
    rw [hskip]
    exact skipScale_of_readScale hscale
  · exact hskip

theorem lt_of_readNumber_natural {n : Nat} (h : readNumber negative cs = .ok (.natural n, rest)) :
    n < 2 ^ 64 := by
  obtain ⟨whole, fraction, more, hscaled, -⟩ | ⟨hinteger, -⟩ := readNumber_cases h
  · obtain ⟨e, -, hreal⟩ := readScaled_eq_ok_iff.mp hscaled
    unfold real at hreal
    dsimp only at hreal
    split at hreal <;> cases hreal
  · unfold integer? at hinteger
    split at hinteger
    · obtain ⟨hlt, hn⟩ := Option.ite_none_right_eq_some.mp hinteger
      cases hn
      exact hlt
    · obtain ⟨-, hn⟩ := Option.ite_none_right_eq_some.mp hinteger
      cases hn

end Json

end Telemetry
