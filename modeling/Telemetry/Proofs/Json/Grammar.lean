import Mathlib
import Telemetry.Proofs.Json.Lexemes

namespace Telemetry.Json

inductive Phrase where
  | value (j : Json)
  | items (items : List Json)
  | members (members : List (String × Json))

inductive Begins (key : String) (cs rest : List Char) : Prop
  | mk {quoted name after : List Char} (hquote : openKey cs = .ok quoted)
      (hname : readString quoted = .ok (name, after)) (hcolon : colon after = .ok rest)
      (hkey : key = String.ofList name)

theorem length_colon {cs rest : List Char} (h : colon cs = .ok rest) : rest.length < cs.length := by
  unfold colon at h
  split at h
  · next hhead =>
    cases h
    exact length_of_skipSpace hhead
  · cases h

theorem length_openKey {cs rest : List Char} (h : openKey cs = .ok rest) :
    rest.length < cs.length := by
  unfold openKey at h
  split at h
  · next hhead =>
    cases h
    exact length_of_skipSpace hhead
  · cases h

theorem separator_more {close : Char} {cs rest : List Char}
    (h : separator close cs = .ok (.more rest)) : skipSpace cs = ',' :: rest := by
  unfold separator at h
  split at h
  · cases h
  · next c tail hhead =>
    split at h
    · next hc =>
      cases h
      rw [hhead, hc]
    · split at h <;> cases h

theorem separator_done {close : Char} {cs rest : List Char}
    (h : separator close cs = .ok (.done rest)) : skipSpace cs = close :: rest := by
  unfold separator at h
  split at h
  · cases h
  · next c tail hhead =>
    split at h
    · cases h
    · split at h
      · next hc =>
        cases h
        rw [hhead, hc]
      · cases h

theorem Begins.length {key : String} {cs rest : List Char} (h : Begins key cs rest) :
    rest.length < cs.length := by
  obtain ⟨hquote, hname, hcolon, -⟩ := h
  exact ((length_colon hcolon).trans (length_readString hname)).trans (length_openKey hquote)

theorem Begins.head_ne {key : String} {cs value : List Char} (h : Begins key cs value) :
    ∀ tail, skipSpace cs ≠ '}' :: tail := by
  intro tail hbrace
  obtain ⟨hquote, -, -, -⟩ := h
  rw [openKey, hbrace] at hquote
  cases hquote

namespace Phrase

def skip : Phrase → Nat → List Char → Except Fault (List Char)
  | value _ => skipWithin
  | items _ => skipItems
  | members _ => skipMembers

def fuel : Phrase → Nat → Nat
  | value _, n => 2 * n + 1
  | items _, n | members _, n => 2 * n + 2

theorem exists_fuel {phrase : Phrase} {n fuel : Nat} (h : phrase.fuel n ≤ fuel) :
    ∃ left, fuel = left + 1 := by
  apply Nat.exists_eq_add_one_of_ne_zero
  cases phrase <;> simp only [Phrase.fuel] at h <;> omega

end Phrase

theorem skipWithin_digit {cs rest : List Char} {c : Char} (hhead : skipSpace cs = c :: rest)
    (hdigit : Digits.isDigit c) (fuel : Nat) :
    skipWithin (fuel + 1) cs = skipNumber (c :: rest) := by
  rw [skipWithin, hhead]
  obtain ⟨hn, ht, hf, hquote, hminus, hbracket, hbrace, -, -⟩ := digit_ne hdigit
  split <;> simp_all

section Rounds

variable {fuel : Nat} {cs value rest more next : List Char} {key : String}

theorem skipItems_done (hitem : skipWithin fuel cs = .ok rest)
    (hend : separator ']' rest = .ok (.done more)) : skipItems (fuel + 1) cs = .ok more := by
  simp only [skipItems, hitem, hend, ok_bind]

theorem skipItems_more (hitem : skipWithin fuel cs = .ok rest)
    (hcomma : separator ']' rest = .ok (.more next)) :
    skipItems (fuel + 1) cs = skipItems fuel next := by
  simp only [skipItems, hitem, hcomma, ok_bind]

theorem skipMembers_done (hkey : Begins key cs value) (hvalue : skipWithin fuel value = .ok rest)
    (hend : separator '}' rest = .ok (.done more)) : skipMembers (fuel + 1) cs = .ok more := by
  obtain ⟨hquote, hname, hcolon, -⟩ := hkey
  simp only [skipMembers, hquote, skipString_of_readString hname, hcolon, hvalue, hend, ok_bind]

theorem skipMembers_more (hkey : Begins key cs value) (hvalue : skipWithin fuel value = .ok rest)
    (hcomma : separator '}' rest = .ok (.more next)) :
    skipMembers (fuel + 1) cs = skipMembers fuel next := by
  obtain ⟨hquote, hname, hcolon, -⟩ := hkey
  simp only [skipMembers, hquote, skipString_of_readString hname, hcolon, hvalue, hcomma, ok_bind]

theorem skipWithin_items (hhead : skipSpace cs = '[' :: rest)
    (hopen : ∀ tail, skipSpace (skipSpace rest) ≠ ']' :: tail) :
    skipWithin (fuel + 1) cs = skipItems fuel (skipSpace rest) := by
  rw [skipSpace_skipSpace] at hopen
  simp only [skipWithin, hhead]

theorem skipWithin_members (hhead : skipSpace cs = '{' :: rest)
    (hopen : ∀ tail, skipSpace (skipSpace rest) ≠ '}' :: tail) :
    skipWithin (fuel + 1) cs = skipMembers fuel (skipSpace rest) := by
  rw [skipSpace_skipSpace] at hopen
  simp only [skipWithin, hhead]

end Rounds

structure Forward (fuel : Nat) : Prop where
  value : ∀ cs rest, skipWithin fuel cs = .ok rest → rest.length < cs.length
  items : ∀ cs rest, skipItems fuel cs = .ok rest → rest.length < cs.length
  members : ∀ cs rest, skipMembers fuel cs = .ok rest → rest.length < cs.length

section Rounds

variable {fuel : Nat} {cs rest : List Char}

theorem Forward.value_succ (ih : Forward fuel) (h : skipWithin (fuel + 1) cs = .ok rest) :
    rest.length < cs.length := by
  rw [skipWithin] at h
  split at h
  case h_1 hhead | h_2 hhead | h_3 hhead =>
    exact (length_expect h).trans_lt (length_of_skipSpace hhead)
  case h_4 hhead => exact (length_skipString h).trans (length_of_skipSpace hhead)
  case h_5 hhead => exact (length_skipNumber h).trans (length_of_skipSpace hhead)
  case h_6 hhead =>
    have hlt := length_of_skipSpace hhead
    split at h
    · next hbracket =>
      cases h
      exact (length_of_skipSpace hbracket).trans hlt
    · exact ((ih.items _ _ h).trans_le (length_skipSpace_le _)).trans hlt
  case h_7 hhead =>
    have hlt := length_of_skipSpace hhead
    split at h
    · next hbrace =>
      cases h
      exact (length_of_skipSpace hbrace).trans hlt
    · exact ((ih.members _ _ h).trans_le (length_skipSpace_le _)).trans hlt
  case h_8 => cases h
  case h_9 hhead =>
    split at h
    · apply (length_skipNumber h).trans_le
      rw [← hhead]
      exact length_skipSpace_le _
    · cases h

theorem Forward.items_succ (ih : Forward fuel) (h : skipItems (fuel + 1) cs = .ok rest) :
    rest.length < cs.length := by
  rw [skipItems] at h
  obtain ⟨after, hitem, h⟩ := bind_eq_ok_iff.mp h
  obtain ⟨sep, hsep, h⟩ := bind_eq_ok_iff.mp h
  have hafter := ih.value _ _ hitem
  split at h
  · have hnext := length_of_skipSpace (separator_more hsep)
    exact ((ih.items _ _ h).trans hnext).trans hafter
  · cases h
    exact (length_of_skipSpace (separator_done hsep)).trans hafter

theorem Forward.members_succ (ih : Forward fuel) (h : skipMembers (fuel + 1) cs = .ok rest) :
    rest.length < cs.length := by
  rw [skipMembers] at h
  obtain ⟨quoted, hquote, h⟩ := bind_eq_ok_iff.mp h
  obtain ⟨named, hname, h⟩ := bind_eq_ok_iff.mp h
  obtain ⟨value, hcolon, h⟩ := bind_eq_ok_iff.mp h
  obtain ⟨after, hvalue, h⟩ := bind_eq_ok_iff.mp h
  obtain ⟨sep, hsep, h⟩ := bind_eq_ok_iff.mp h
  have hkey := ((length_colon hcolon).trans (length_skipString hname)).trans (length_openKey hquote)
  have hafter := (ih.value _ _ hvalue).trans hkey
  split at h
  · have hnext := length_of_skipSpace (separator_more hsep)
    exact ((ih.members _ _ h).trans hnext).trans hafter
  · cases h
    exact (length_of_skipSpace (separator_done hsep)).trans hafter

end Rounds

theorem forward (fuel : Nat) : Forward fuel := by
  induction fuel with
  | zero => constructor <;> nofun
  | succ fuel ih =>
    exact ⟨fun _ _ ↦ ih.value_succ, fun _ _ ↦ ih.items_succ, fun _ _ ↦ ih.members_succ⟩

theorem length_skipValue {cs rest : List Char} (h : Json.skipValue cs = .ok rest) :
    rest.length < cs.length :=
  (forward _).value _ _ h

variable [Rounding]

/-- A text begins with a phrase and goes on with a rest. Items and members reach to the end of their
array or object. -/
inductive Spells : Phrase → List Char → List Char → Prop
  | null {cs rest more : List Char} (hhead : skipSpace cs = 'n' :: rest)
      (h : expect ['u', 'l', 'l'] rest = .ok more) : Spells (.value .null) cs more
  | true {cs rest more : List Char} (hhead : skipSpace cs = 't' :: rest)
      (h : expect ['r', 'u', 'e'] rest = .ok more) : Spells (.value (.bool true)) cs more
  | false {cs rest more : List Char} (hhead : skipSpace cs = 'f' :: rest)
      (h : expect ['a', 'l', 's', 'e'] rest = .ok more) : Spells (.value (.bool false)) cs more
  | str {cs rest s more : List Char} (hhead : skipSpace cs = '"' :: rest)
      (h : readString rest = .ok (s, more)) : Spells (.value (.str (String.ofList s))) cs more
  | negative {cs rest more : List Char} {n : Number} (hhead : skipSpace cs = '-' :: rest)
      (h : readNumber true rest = .ok (n, more)) : Spells (.value (.num n)) cs more
  | number {cs rest more : List Char} {c : Char} {n : Number} (hhead : skipSpace cs = c :: rest)
      (hdigit : Digits.isDigit c) (h : readNumber false (c :: rest) = .ok (n, more)) :
      Spells (.value (.num n)) cs more
  | noItems {cs rest more : List Char} (hhead : skipSpace cs = '[' :: rest)
      (h : skipSpace rest = ']' :: more) : Spells (.value (.arr [])) cs more
  | arr {cs rest more : List Char} {items : List Json} (hhead : skipSpace cs = '[' :: rest)
      (h : Spells (.items items) (skipSpace rest) more) : Spells (.value (.arr items)) cs more
  | noMembers {cs rest more : List Char} (hhead : skipSpace cs = '{' :: rest)
      (h : skipSpace rest = '}' :: more) : Spells (.value (.obj [])) cs more
  | obj {cs rest more : List Char} {members : List (String × Json)}
      (hhead : skipSpace cs = '{' :: rest)
      (h : Spells (.members members) (skipSpace rest) more) :
      Spells (.value (.obj members)) cs more
  | lastItem {cs rest more : List Char} {j : Json} (h : Spells (.value j) cs rest)
      (hend : separator ']' rest = .ok (.done more)) : Spells (.items [j]) cs more
  | item {cs rest next more : List Char} {j : Json} {items : List Json}
      (h : Spells (.value j) cs rest) (hcomma : separator ']' rest = .ok (.more next))
      (hitems : Spells (.items items) next more) : Spells (.items (j :: items)) cs more
  | lastMember {cs value rest more : List Char} {key : String} {j : Json}
      (hkey : Begins key cs value) (h : Spells (.value j) value rest)
      (hend : separator '}' rest = .ok (.done more)) : Spells (.members [(key, j)]) cs more
  | member {cs value rest next more : List Char} {key : String} {j : Json}
      {members : List (String × Json)} (hkey : Begins key cs value)
      (h : Spells (.value j) value rest) (hcomma : separator '}' rest = .ok (.more next))
      (hmembers : Spells (.members members) next more) :
      Spells (.members ((key, j) :: members)) cs more

def Spelled (s : String) (j : Json) : Prop :=
  ∃ rest, Spells (.value j) s.toList rest ∧ skipSpace rest = []

def IsSized (j : Json) : Prop := ∀ n, j = .num (.natural n) → n < 2 ^ 64

theorem Spells.isSized {j : Json} {cs rest : List Char} (h : Spells (.value j) cs rest) :
    IsSized j := by
  intro n hn
  cases hn
  cases h with
  | negative _ h => exact lt_of_readNumber_natural h
  | number _ _ h => exact lt_of_readNumber_natural h

theorem Spells.value_head_ne {j : Json} {cs rest : List Char} (h : Spells (.value j) cs rest) :
    ∀ tail, skipSpace cs ≠ ']' :: tail := by
  intro tail hbracket
  cases h with
  | number hhead hdigit =>
    have hc : _ = ']' := (List.cons.inj (hhead.symm.trans hbracket)).1
    exact (digit_ne hdigit).2.2.2.2.2.2.2.1 hc
  | _ hhead =>
    rw [hhead] at hbracket
    cases hbracket

theorem Spells.items_head_ne {items : List Json} {cs rest : List Char}
    (h : Spells (.items items) cs rest) : ∀ tail, skipSpace cs ≠ ']' :: tail := by
  cases h with
  | lastItem h => exact h.value_head_ne
  | item h => exact h.value_head_ne

theorem Spells.members_head_ne {members : List (String × Json)} {cs rest : List Char}
    (h : Spells (.members members) cs rest) : ∀ tail, skipSpace cs ≠ '}' :: tail := by
  cases h with
  | lastMember hkey => exact hkey.head_ne
  | member hkey => exact hkey.head_ne

theorem Spells.skip {phrase : Phrase} {cs rest : List Char} (h : Spells phrase cs rest) :
    ∀ fuel, phrase.fuel cs.length ≤ fuel → phrase.skip fuel cs = .ok rest := by
  induction h with
  | null hhead h | true hhead h | false hhead h =>
    intro fuel hfuel
    obtain ⟨fuel, rfl⟩ := Phrase.exists_fuel hfuel
    simp only [Phrase.skip, skipWithin, hhead]
    exact h
  | str hhead h =>
    intro fuel hfuel
    obtain ⟨fuel, rfl⟩ := Phrase.exists_fuel hfuel
    simp only [Phrase.skip, skipWithin, hhead]
    exact skipString_of_readString h
  | negative hhead h =>
    intro fuel hfuel
    obtain ⟨fuel, rfl⟩ := Phrase.exists_fuel hfuel
    simp only [Phrase.skip, skipWithin, hhead]
    exact skipNumber_of_readNumber h
  | number hhead hdigit h =>
    intro fuel hfuel
    obtain ⟨fuel, rfl⟩ := Phrase.exists_fuel hfuel
    rw [Phrase.skip, skipWithin_digit hhead hdigit]
    exact skipNumber_of_readNumber h
  | noItems hhead h | noMembers hhead h =>
    intro fuel hfuel
    obtain ⟨fuel, rfl⟩ := Phrase.exists_fuel hfuel
    simp only [Phrase.skip, skipWithin, hhead, h]
  | @arr cs rest more items hhead h ih =>
    intro fuel hfuel
    obtain ⟨fuel, rfl⟩ := Phrase.exists_fuel hfuel
    have hlt := (length_skipSpace_le rest).trans_lt (length_of_skipSpace hhead)
    refine (skipWithin_items hhead h.items_head_ne).trans (ih fuel ?_)
    simp only [Phrase.fuel] at hfuel ⊢
    omega
  | @obj cs rest more members hhead h ih =>
    intro fuel hfuel
    obtain ⟨fuel, rfl⟩ := Phrase.exists_fuel hfuel
    have hlt := (length_skipSpace_le rest).trans_lt (length_of_skipSpace hhead)
    refine (skipWithin_members hhead h.members_head_ne).trans (ih fuel ?_)
    simp only [Phrase.fuel] at hfuel ⊢
    omega
  | lastItem h hend ih =>
    intro fuel hfuel
    obtain ⟨fuel, rfl⟩ := Phrase.exists_fuel hfuel
    exact skipItems_done (ih fuel (Nat.le_of_succ_le_succ hfuel)) hend
  | item h hcomma hitems ih ihitems =>
    intro fuel hfuel
    obtain ⟨fuel, rfl⟩ := Phrase.exists_fuel hfuel
    have hitem := ih fuel (Nat.le_of_succ_le_succ hfuel)
    have hlt := (length_of_skipSpace (separator_more hcomma)).trans ((forward _).value _ _ hitem)
    refine (skipItems_more hitem hcomma).trans (ihitems fuel ?_)
    simp only [Phrase.fuel] at hfuel ⊢
    omega
  | @lastMember cs value rest more key j hkey h hend ih =>
    intro fuel hfuel
    obtain ⟨fuel, rfl⟩ := Phrase.exists_fuel hfuel
    have hlt := hkey.length
    refine skipMembers_done hkey (ih fuel ?_) hend
    simp only [Phrase.fuel] at hfuel ⊢
    omega
  | @member cs value rest next more key j members hkey h hcomma hmembers ih ihmembers =>
    intro fuel hfuel
    obtain ⟨fuel, rfl⟩ := Phrase.exists_fuel hfuel
    have hlt := hkey.length
    have hvalue : skipWithin fuel value = .ok rest := by
      apply ih
      simp only [Phrase.fuel] at hfuel ⊢
      omega
    -- Passing over goes forward, so that what has been used up is fuel for the other members.
    have hrest := (length_of_skipSpace (separator_more hcomma)).trans
      ((forward _).value _ _ hvalue)
    refine (skipMembers_more hkey hvalue hcomma).trans (ihmembers fuel ?_)
    simp only [Phrase.fuel] at hfuel ⊢
    omega

theorem Spells.skipValue {j : Json} {cs rest : List Char} (h : Spells (.value j) cs rest) :
    skipValue cs = .ok rest :=
  h.skip _ (Nat.le_succ _)

/-- What stands behind a key: a value that is spelled, or behind a key that is not among those known
anything that is passed over. The latter counts as null. -/
inductive Holds (known : List String) (key : String) : Json → List Char → List Char → Prop
  | spelled {j : Json} {cs rest : List Char} (h : Spells (.value j) cs rest) :
      Holds known key j cs rest
  | passed {cs rest : List Char} (hkey : key ∉ known) (h : Json.skipValue cs = .ok rest) :
      Holds known key .null cs rest

inductive Lists (known : List String) : List (String × Json) → List Char → List Char → Prop
  | last {cs value rest more : List Char} {key : String} {j : Json} (hkey : Begins key cs value)
      (h : Holds known key j value rest) (hend : separator '}' rest = .ok (.done more)) :
      Lists known [(key, j)] cs more
  | cons {cs value rest next more : List Char} {key : String} {j : Json}
      {members : List (String × Json)} (hkey : Begins key cs value)
      (h : Holds known key j value rest) (hcomma : separator '}' rest = .ok (.more next))
      (hmembers : Lists known members next more) : Lists known ((key, j) :: members) cs more

inductive Listed (known : List String) (s : String) : List (String × Json) → Prop
  | empty {cs rest : List Char} (hhead : skipSpace s.toList = '{' :: cs)
      (h : skipSpace cs = '}' :: rest) (hend : skipSpace rest = []) : Listed known s []
  | object {cs rest : List Char} {members : List (String × Json)}
      (hhead : skipSpace s.toList = '{' :: cs) (h : Lists known members (skipSpace cs) rest)
      (hend : skipSpace rest = []) : Listed known s members

section Members

variable {known : List String} {key : String} {j : Json} {members : List (String × Json)}
  {cs rest : List Char}

theorem Holds.skipValue (h : Holds known key j cs rest) : Json.skipValue cs = .ok rest := by
  cases h with
  | spelled h => exact h.skipValue
  | passed _ h => exact h

theorem Holds.isSized (h : Holds known key j cs rest) : IsSized j := by
  cases h with
  | spelled h => exact h.isSized
  | passed => nofun

theorem Spells.lists (h : Spells (.members members) cs rest) : Lists known members cs rest := by
  induction members generalizing cs with
  | nil => cases h
  | cons m members ih =>
    cases h with
    | lastMember hkey hvalue hend => exact .last hkey (.spelled hvalue) hend
    | member hkey hvalue hcomma hmembers => exact .cons hkey (.spelled hvalue) hcomma (ih hmembers)

theorem Lists.isSized (h : Lists known members cs rest) : ∀ m ∈ members, IsSized m.2 := by
  induction h with
  | last _ h => exact List.forall_mem_cons.mpr ⟨h.isSized, nofun⟩
  | cons _ h _ _ ih => exact List.forall_mem_cons.mpr ⟨h.isSized, ih⟩

theorem Spelled.listed {s : String} (h : Spelled s (.obj members)) : Listed known s members := by
  obtain ⟨rest, hspells, hend⟩ := h
  cases hspells with
  | noMembers hhead hbrace => exact .empty hhead hbrace hend
  | obj hhead hmembers => exact .object hhead hmembers.lists hend

theorem Listed.isSized {s : String} (h : Listed known s members) : ∀ m ∈ members, IsSized m.2 := by
  cases h with
  | empty => nofun
  | object _ h => exact h.isSized

theorem Lists.head_ne (h : Lists known members cs rest) : ∀ tail, skipSpace cs ≠ '}' :: tail := by
  cases h with
  | last hkey => exact hkey.head_ne
  | cons hkey => exact hkey.head_ne

theorem Lists.length_le (h : Lists known members cs rest) : members.length ≤ cs.length := by
  induction h with
  | last hkey => exact (Nat.zero_le _).trans_lt hkey.length
  | cons hkey h hcomma _ ih =>
    rw [List.length_cons]
    have hrest := (length_skipValue h.skipValue).trans hkey.length
    exact ih.trans_lt ((length_of_skipSpace (separator_more hcomma)).trans hrest)

end Members

structure Legible (fuel : Nat) : Prop where
  value : ∀ cs j rest, readWithin fuel cs = .ok (j, rest) → ∃ raw, Spells (.value raw) cs rest
  items : ∀ cs items rest, readItems fuel cs = .ok (items, rest) →
    ∃ raw, Spells (.items raw) cs rest
  members : ∀ cs members rest, readMembers fuel cs = .ok (members, rest) →
    ∃ raw, Spells (.members raw) cs rest

section Rounds

variable {fuel : Nat} {cs rest : List Char}

theorem Legible.value_succ (ih : Legible fuel) {j : Json}
    (h : readWithin (fuel + 1) cs = .ok (j, rest)) : ∃ raw, Spells (.value raw) cs rest := by
  rw [readWithin] at h
  split at h
  · next hhead =>
    obtain ⟨more, hmore, hj⟩ := map_eq_ok_iff.mp h
    cases hj
    exact ⟨_, .null hhead hmore⟩
  · next hhead =>
    obtain ⟨more, hmore, hj⟩ := map_eq_ok_iff.mp h
    cases hj
    exact ⟨_, .true hhead hmore⟩
  · next hhead =>
    obtain ⟨more, hmore, hj⟩ := map_eq_ok_iff.mp h
    cases hj
    exact ⟨_, .false hhead hmore⟩
  · next hhead =>
    obtain ⟨⟨s, more⟩, hmore, hj⟩ := map_eq_ok_iff.mp h
    cases hj
    exact ⟨_, .str hhead hmore⟩
  · next hhead =>
    obtain ⟨⟨n, more⟩, hmore, hj⟩ := map_eq_ok_iff.mp h
    cases hj
    exact ⟨_, .negative hhead hmore⟩
  · next hhead =>
    split at h
    · next hbracket =>
      cases h
      exact ⟨_, .noItems hhead hbracket⟩
    · obtain ⟨⟨items, more⟩, hmore, hj⟩ := map_eq_ok_iff.mp h
      cases hj
      obtain ⟨raw, hraw⟩ := ih.items _ _ _ hmore
      exact ⟨_, .arr hhead hraw⟩
  · next hhead =>
    split at h
    · next hbrace =>
      cases h
      exact ⟨_, .noMembers hhead hbrace⟩
    · obtain ⟨⟨members, more⟩, hmore, hj⟩ := map_eq_ok_iff.mp h
      cases hj
      obtain ⟨raw, hraw⟩ := ih.members _ _ _ hmore
      exact ⟨_, .obj hhead hraw⟩
  · cases h
  · next hhead =>
    split at h
    · next hdigit =>
      obtain ⟨⟨n, more⟩, hmore, hj⟩ := map_eq_ok_iff.mp h
      cases hj
      exact ⟨_, .number hhead hdigit hmore⟩
    · cases h

theorem Legible.items_succ (ih : Legible fuel) {items : List Json}
    (h : readItems (fuel + 1) cs = .ok (items, rest)) : ∃ raw, Spells (.items raw) cs rest := by
  rw [readItems] at h
  obtain ⟨⟨j, after⟩, hj, h⟩ := bind_eq_ok_iff.mp h
  obtain ⟨raw, hraw⟩ := ih.value _ _ _ hj
  obtain ⟨sep, hsep, h⟩ := bind_eq_ok_iff.mp h
  split at h
  · obtain ⟨⟨items, more⟩, hmore, hitems⟩ := map_eq_ok_iff.mp h
    cases hitems
    obtain ⟨raws, hraws⟩ := ih.items _ _ _ hmore
    exact ⟨_, .item hraw hsep hraws⟩
  · cases h
    exact ⟨_, .lastItem hraw hsep⟩

theorem Legible.members_succ (ih : Legible fuel) {members : List (String × Json)}
    (h : readMembers (fuel + 1) cs = .ok (members, rest)) :
    ∃ raw, Spells (.members raw) cs rest := by
  rw [readMembers] at h
  obtain ⟨quoted, hquote, h⟩ := bind_eq_ok_iff.mp h
  obtain ⟨⟨key, after⟩, hname, h⟩ := bind_eq_ok_iff.mp h
  obtain ⟨value, hcolon, h⟩ := bind_eq_ok_iff.mp h
  obtain ⟨⟨j, after⟩, hj, h⟩ := bind_eq_ok_iff.mp h
  obtain ⟨raw, hraw⟩ := ih.value _ _ _ hj
  obtain ⟨sep, hsep, h⟩ := bind_eq_ok_iff.mp h
  split at h
  · obtain ⟨⟨members, more⟩, hmore, hmembers⟩ := map_eq_ok_iff.mp h
    cases hmembers
    obtain ⟨raws, hraws⟩ := ih.members _ _ _ hmore
    exact ⟨_, .member ⟨hquote, hname, hcolon, rfl⟩ hraw hsep hraws⟩
  · cases h
    exact ⟨_, .lastMember ⟨hquote, hname, hcolon, rfl⟩ hraw hsep⟩

end Rounds

theorem legible (fuel : Nat) : Legible fuel := by
  -- The three readers call each other with less fuel, so they are looked at together.
  induction fuel with
  | zero => constructor <;> nofun
  | succ fuel ih =>
    exact ⟨fun _ _ _ ↦ ih.value_succ, fun _ _ _ ↦ ih.items_succ, fun _ _ _ ↦ ih.members_succ⟩

/-- The grammar leaves nothing out: every text that can be read spells a value. -/
theorem spelled_of_parse {s : String} {j : Json} (h : parse s = .ok j) : ∃ raw, Spelled s raw := by
  obtain ⟨⟨value, rest⟩, hread, hend⟩ := bind_eq_ok_iff.mp h
  obtain ⟨raw, hraw⟩ := (legible _).value _ _ _ hread
  refine ⟨raw, rest, hraw, ?_⟩
  dsimp only at hend
  split at hend
  · next hrest => exact hrest
  · cases hend

end Telemetry.Json
