import Mathlib
import Telemetry.Proofs.Json.Grammar
import Telemetry.Proofs.Json.Records

namespace Telemetry.Json

variable {α β ρ : Type}

@[simp]
theorem lexed_ok (a : α) : lexed (.ok a) = .ok a := rfl

@[simp]
theorem lexed_error (f : Fault) : lexed (.error f : Except Fault α) = .error (.fault f) := rfl

theorem lexed_eq_ok_iff {r : Except Fault α} {a : α} : lexed r = .ok a ↔ r = .ok a := by
  cases r <;> simp

theorem skipSpace_of_openKey {cs rest : List Char} (h : openKey cs = .ok rest) :
    skipSpace cs = '"' :: rest := by
  unfold openKey at h
  split at h
  · next hhead =>
    cases h
    exact hhead
  · cases h

namespace Decoder

theorem ofText_eq_ok_iff {d : Decoder α} {s : String} {rest : List Char} {P : α → Prop}
    (h : ∀ a more, d.read s.toList = .ok (a, more) ↔ P a ∧ more = rest) (hend : skipSpace rest = [])
    {a : α} : d.ofText s = .ok a ↔ P a := by
  refine bind_eq_ok_iff.trans ?_
  constructor
  · intro hok
    obtain ⟨⟨b, more⟩, hread, hb⟩ := hok
    obtain ⟨hjson, rfl⟩ := (h b more).mp hread
    simp only [hend] at hb
    cases hb
    exact hjson
  · intro hjson
    refine ⟨(a, rest), (h a rest).mpr ⟨hjson, rfl⟩, ?_⟩
    simp only [hend]

variable [Rounding]

/-- A decoder takes from a text what it takes from the value spelled there, and stops behind it. -/
def Agrees (d : Decoder α) : Prop :=
  ∀ ⦃j cs rest⦄, Spells (.value j) cs rest → ∀ a more,
    d.read cs = .ok (a, more) ↔ d.ofJson j = .ok a ∧ more = rest

theorem refuse_ne_ok {expected : String} {cs : List Char} {x : α × List Char} :
    refuse expected cs ≠ .ok x := by
  have hwrong {γ : Type} (r : Except ReadError γ) (f : γ → Mismatch) :
      (do let a ← r; failed (f a)) ≠ .ok x := by
    intro h
    obtain ⟨a, -, ha⟩ := bind_eq_ok_iff.mp h
    cases ha
  unfold refuse
  dsimp only
  split
  · exact hwrong _ fun _ ↦ _
  · exact hwrong _ fun _ ↦ _
  · exact hwrong _ fun _ ↦ _
  · exact hwrong _ fun _ ↦ _
  · exact hwrong _ fun _ ↦ _
  · nofun
  · nofun
  · nofun
  · split
    · exact hwrong _ fun _ ↦ _
    · nofun

theorem map_agrees {d : Decoder α} (h : d.Agrees) (f : α → β) : (d.map f).Agrees := by
  intro j cs rest hspells b more
  unfold map
  simp only [map_eq_ok_iff, Prod.exists, Prod.mk.injEq, h hspells]
  constructor
  · intro hread
    obtain ⟨a, more', ⟨ha, hmore'⟩, hb, rfl⟩ := hread
    exact ⟨⟨a, ha, hb⟩, hmore'⟩
  · intro hjson
    obtain ⟨⟨a, ha, hb⟩, hmore⟩ := hjson
    exact ⟨a, more, ⟨ha, hmore⟩, hb, rfl⟩

theorem text_agrees : text.Agrees := by
  intro j cs rest h a more
  cases h with
  | str hhead h => simp [text, hhead, h, eq_comm (a := rest)]
  | number hhead hdigit h =>
    obtain ⟨-, -, -, hquote, -⟩ := digit_ne hdigit
    simp only [text, hhead]
    split
    · simp_all
    · simp [refuse_ne_ok]
  | _ hhead => simp [text, hhead, refuse_ne_ok]

theorem flag_agrees : flag.Agrees := by
  intro j cs rest h a more
  cases h with
  | true hhead h | false hhead h =>
    simp [flag, hhead, h, eq_comm (a := rest)]
  | number hhead hdigit h =>
    obtain ⟨-, ht, hf, -⟩ := digit_ne hdigit
    simp only [flag, hhead]
    split
    · simp_all
    · simp_all
    · simp [refuse_ne_ok]
  | _ hhead => simp [flag, hhead, refuse_ne_ok]

theorem unit_agrees : unit.Agrees := by
  intro j cs rest h a more
  cases h with
  | null hhead h => simp [unit, hhead, h, eq_comm (a := rest)]
  | number hhead hdigit h =>
    obtain ⟨hn, -⟩ := digit_ne hdigit
    simp only [unit, hhead]
    split
    · simp_all
    · simp [refuse_ne_ok]
  | _ hhead => simp [unit, hhead, refuse_ne_ok]

theorem number_agrees (accept : Number → Except Mismatch α) (expected : String) :
    (number accept expected).Agrees := by
  intro j cs rest h a more
  cases h with
  | @negative _ _ _ n hhead h =>
    simp only [number, hhead, h, lexed_ok, ok_bind]
    cases accept n <;> simp [failed, eq_comm (a := rest)]
  | @number _ _ _ c n hhead hdigit h =>
    obtain ⟨-, -, -, -, hminus, -⟩ := digit_ne hdigit
    simp only [number, hhead, hdigit, h, lexed_ok, ok_bind, if_true]
    cases accept n <;> simp [failed, eq_comm (a := rest)]
  | _ hhead => simp [number, hhead, refuse_ne_ok, Digits.isDigit]

theorem nullable_agrees {d : Decoder α} (h : d.Agrees) : d.nullable.Agrees := by
  intro j cs rest hspells o more
  have hvalue := map_agrees h some hspells o more
  unfold map at hvalue
  cases hspells with
  | null hhead hnull =>
    simp [nullable, hhead, hnull, eq_comm (a := rest)]
  | number hhead hdigit =>
    obtain ⟨hn, -⟩ := digit_ne hdigit
    simpa [nullable, hhead, hn] using hvalue
  | _ hhead => simpa [nullable, hhead] using hvalue

end Decoder

theorem Variant.read_eq_ok_iff [Rounding] {v : Variant α}
    (h : ∀ d, v.payload = .one d → d.Agrees) {j : Json} {cs rest : List Char}
    (hspells : Spells (.value j) cs rest) (a : α) (more : List Char) :
    v.read cs = .ok (a, more) ↔ v.ofJson j = .ok a ∧ more = rest := by
  unfold read ofJson
  cases hpayload : v.payload with
  | none value => exact Decoder.map_agrees Decoder.unit_agrees (fun _ ↦ value) hspells a more
  | one d => exact h d hpayload hspells a more

namespace Decoder

variable [Rounding]

theorem choice_read_obj {vs : List (Variant α)} {cs rest value : List Char} {name : String}
    (hhead : skipSpace cs = '{' :: rest) (hkey : Begins name (skipSpace rest) value) (a : α)
    (more : List Char) :
    (choice vs).read cs = .ok (a, more) ↔
      ∃ v after, Variant.find vs name = .ok v ∧ v.read value = .ok (a, after) ∧
        skipSpace after = '}' :: more := by
  obtain ⟨hquote, hname, hcolon, rfl⟩ := hkey
  have hquoted := skipSpace_of_openKey hquote
  rw [skipSpace_skipSpace] at hquoted
  simp only [choice, hhead, hquoted, hname, hcolon, lexed_ok, Except.mapError, bind, Except.bind]
  cases Variant.find vs (String.ofList _) with
  | error m => simp
  | ok v =>
    cases hread : v.read value with
    | error e => simp [hread]
    | ok x =>
      simp only [Except.ok.injEq, exists_and_left, exists_eq_left', hread]
      obtain ⟨b, after⟩ := x
      split
      · next hbrace => simp [hbrace, and_comm]
      · next hbrace => simpa using fun _ ↦ hbrace more

theorem choice_agrees {vs : List (Variant α)}
    (h : ∀ v ∈ vs, ∀ d, v.payload = .one d → d.Agrees) : (choice vs).Agrees := by
  intro j cs rest hspells a more
  cases hspells with
  | str hhead hread =>
    simp only [choice, hhead, hread, lexed_ok, bind, Except.bind]
    cases Variant.find vs (String.ofList _) with
    | error m => simp [failed]
    | ok v => cases hplain : v.plain <;> simp [hplain, failed, eq_comm (a := rest)]
  | noMembers hhead hbrace =>
    simp [choice, hhead, hbrace, refuse_ne_ok]
  | obj hhead hmembers =>
    have hread {key : String} {value after : List Char} {j : Json}
        (hvalue : Spells (.value j) value after) {v : Variant α}
        (hv : Variant.find vs key = .ok v) (a : α) (more : List Char) :
        v.read value = .ok (a, more) ↔ v.ofJson j = .ok a ∧ more = after := by
      apply Variant.read_eq_ok_iff _ hvalue
      unfold Variant.find at hv
      split at hv
      · next w hw =>
        cases hv
        exact h _ (List.mem_of_find?_eq_some hw)
      · cases hv
    cases hmembers with
    | lastMember hkey hvalue hend =>
      have hbrace := separator_done hend
      rw [choice_read_obj hhead hkey, choice_ofJson_obj]
      constructor
      · intro hok
        obtain ⟨v, after, hv, hva, hafter⟩ := hok
        obtain ⟨ha, rfl⟩ := (hread hvalue hv a after).mp hva
        exact ⟨⟨v, hv, ha⟩, (List.cons.inj (hafter.symm.trans hbrace)).2⟩
      · intro hok
        obtain ⟨⟨v, hv, ha⟩, rfl⟩ := hok
        exact ⟨v, _, hv, (hread hvalue hv a _).mpr ⟨ha, rfl⟩, hbrace⟩
    | member hkey hvalue hcomma hrest =>
      rw [choice_read_obj hhead hkey]
      constructor
      · intro hok
        obtain ⟨v, after, hv, hva, hafter⟩ := hok
        obtain ⟨-, rfl⟩ := (hread hvalue hv a after).mp hva
        rw [separator_more hcomma] at hafter
        cases hafter
      · intro hok
        cases hrest <;> simp [choice] at hok
  | number hhead hdigit =>
    obtain ⟨-, -, -, hquote, -, -, hbrace, -, -⟩ := digit_ne hdigit
    simp [choice, hhead, hquote, hbrace]
  | _ hhead => simp [choice, hhead]

end Decoder

theorem Spells.items_cases [Rounding] {items : List Json} {cs rest : List Char}
    (h : Spells (.items items) cs rest) :
    ∃ j js after, items = j :: js ∧ Spells (.value j) cs after ∧
      ((js = [] ∧ skipSpace after = ']' :: rest) ∨
        ∃ next, skipSpace after = ',' :: next ∧ Spells (.items js) next rest) := by
  cases h with
  | lastItem h hend => exact ⟨_, [], _, rfl, h, .inl ⟨rfl, separator_done hend⟩⟩
  | item h hcomma hitems => exact ⟨_, _, _, rfl, h, .inr ⟨_, separator_more hcomma, hitems⟩⟩

namespace Field

variable {fs : List (Field ρ)}

theorem spells_of_holds [Rounding] {name : String} {j : Json} {cs rest : List Char}
    (h : Holds (fs.map (·.name)) name j cs rest) {f : Field ρ} (hfind : find? fs name = some f) :
    Spells (.value j) cs rest := by
  cases h with
  | spelled h => exact h
  | passed hkey =>
    apply absurd _ hkey
    refine List.mem_map.mpr ⟨f, List.mem_of_find?_eq_some hfind, ?_⟩
    simpa using List.find?_some hfind

theorem readMember_eq_ok_iff [Rounding] (hagrees : ∀ f ∈ fs, f.change.Agrees) {name : String}
    {j : Json} {after value rest : List Char} (hcolon : colon after = .ok value)
    (hvalue : Holds (fs.map (·.name)) name j value rest) {p q : Progress ρ} {more : List Char} :
    readMember fs p name after = .ok (q, more) ↔
      acceptMember fs p (name, j) = .ok q ∧ more = rest := by
  unfold readMember acceptMember
  cases hfind : find? fs name with
  | none =>
    simp [hcolon, hvalue.skipValue, pure, Except.pure, eq_comm (a := rest)]
  | some f =>
    have hread := hagrees f (List.mem_of_find?_eq_some hfind) (spells_of_holds hvalue hfind)
    dsimp only
    split
    · simp [failed]
    · rw [lexed_eq_ok_iff.mpr hcolon, map_eq_ok_iff]
      show f.change.read value >>= (fun x ↦ pure ((x.1 p.1, name :: p.2), x.2)) = .ok (q, more) ↔ _
      rw [bind_eq_ok_iff]
      constructor
      · intro h
        obtain ⟨⟨change, more'⟩, hchange, hok⟩ := h
        obtain ⟨hjson, rfl⟩ := (hread change more').mp hchange
        cases hok
        exact ⟨⟨change, hjson, rfl⟩, rfl⟩
      · intro h
        obtain ⟨⟨change, hjson, rfl⟩, rfl⟩ := h
        exact ⟨(change, more), (hread change more).mpr ⟨hjson, rfl⟩, rfl⟩

theorem readMembers_succ (fs : List (Field ρ)) {name : String} {cs value : List Char}
    (hkey : Begins name cs value) (fuel : Nat) (p : Progress ρ) (r : ρ) (more : List Char) :
    ∃ after, colon after = .ok value ∧ (readMembers fs (fuel + 1) p cs = .ok (r, more) ↔
      ∃ q rest, readMember fs p name after = .ok (q, rest) ∧
        ((∃ next, separator '}' rest = .ok (.more next) ∧
          readMembers fs fuel q next = .ok (r, more)) ∨
        (separator '}' rest = .ok (.done more) ∧ q.1 = r))) := by
  obtain ⟨hquote, hname, hcolon, rfl⟩ := hkey
  refine ⟨_, hcolon, ?_⟩
  rw [readMembers, lexed_eq_ok_iff.mpr hquote]
  simp only [bind, Except.bind, lexed_eq_ok_iff.mpr hname]
  cases readMember fs p _ _ with
  | error e => simp
  | ok x =>
    obtain ⟨q, rest⟩ := x
    cases hsep : separator '}' rest with
    | error e => simp [hsep]
    | ok sep =>
      cases sep with
      | more next => simp [hsep]
      | done left => simp [hsep, and_comm]

theorem readMembers_eq_ok_iff [Rounding] (hagrees : ∀ f ∈ fs, f.change.Agrees)
    {members : List (String × Json)} {cs rest : List Char}
    (hlists : Lists (fs.map (·.name)) members cs rest) {fuel : Nat} (hfuel : members.length ≤ fuel)
    {p : Progress ρ} {r : ρ} {more : List Char} :
    readMembers fs fuel p cs = .ok (r, more) ↔
      (∃ q, members.foldlM (acceptMember fs) p = .ok q ∧ q.1 = r) ∧ more = rest := by
  induction members generalizing cs fuel p with
  | nil => cases hlists
  | cons m members ih =>
    obtain ⟨fuel, rfl⟩ := Nat.exists_eq_add_one_of_ne_zero (show fuel ≠ 0 by
      rw [List.length_cons] at hfuel
      omega)
    simp only [foldlM_cons_eq_ok_iff]
    cases hlists with
    | last hkey hvalue hend =>
      obtain ⟨after, hcolon, hround⟩ := readMembers_succ fs hkey fuel p r more
      rw [hround]
      simp only [readMember_eq_ok_iff hagrees hcolon hvalue]
      constructor
      · intro h
        obtain ⟨q, _, ⟨hq, rfl⟩, ⟨next, hnext, -⟩ | ⟨hdone, hr⟩⟩ := h
        · cases hend.symm.trans hnext
        · cases hend.symm.trans hdone
          exact ⟨⟨q, ⟨q, hq, rfl⟩, hr⟩, rfl⟩
      · intro h
        obtain ⟨⟨_, ⟨q, hq, hlast⟩, hr⟩, rfl⟩ := h
        cases hlast
        exact ⟨_, _, ⟨hq, rfl⟩, .inr ⟨hend, hr⟩⟩
    | cons hkey hvalue hcomma hrest =>
      obtain ⟨after, hcolon, hround⟩ := readMembers_succ fs hkey fuel p r more
      rw [hround]
      simp only [readMember_eq_ok_iff hagrees hcolon hvalue]
      have hih {q : Progress ρ} := ih (p := q) hrest (Nat.le_of_succ_le_succ hfuel)
      constructor
      · intro h
        obtain ⟨q, _, ⟨hq, rfl⟩, ⟨next, hnext, hmembers⟩ | ⟨hdone, -⟩⟩ := h
        · cases hcomma.symm.trans hnext
          obtain ⟨⟨p', hp', hr⟩, rfl⟩ := hih.mp hmembers
          exact ⟨⟨p', ⟨q, hq, hp'⟩, hr⟩, rfl⟩
        · cases hcomma.symm.trans hdone
      · intro h
        obtain ⟨⟨p', ⟨q, hq, hp'⟩, hr⟩, hmore⟩ := h
        exact ⟨q, _, ⟨hq, rfl⟩, .inl ⟨_, hcomma, hih.mpr ⟨⟨p', hp', hr⟩, hmore⟩⟩⟩

/-- What an array gives to some fields: an item for each, as far as they go, and no more items. -/
def Fit (fs : List (Field ρ)) (items : List Json) (r r' : ρ) : Prop :=
  (fs.zip items).foldlM acceptItem r = .ok r' ∧ items.length ≤ fs.length

theorem fit_cons_iff {f : Field ρ} {j : Json} {items : List Json} {r r' : ρ} :
    Fit (f :: fs) (j :: items) r r' ↔
      ∃ change, f.change.ofJson j = .ok change ∧ Fit fs items (change r) r' := by
  unfold Fit
  rw [List.zip_cons_cons, List.foldlM_cons, bind_eq_ok_iff, List.length_cons, List.length_cons,
    Nat.add_le_add_iff_right]
  simp only [acceptItem, map_eq_ok_iff]
  constructor
  · intro h
    obtain ⟨⟨_, ⟨change, hchange, rfl⟩, hitems⟩, hlength⟩ := h
    exact ⟨change, hchange, hitems, hlength⟩
  · intro h
    obtain ⟨change, hchange, hitems, hlength⟩ := h
    exact ⟨⟨_, ⟨change, hchange, rfl⟩, hitems⟩, hlength⟩

theorem fit_nil_iff {r r' : ρ} : Fit fs [] r r' ↔ r = r' := by
  simp [Fit, pure, Except.pure]

theorem readItems_done {cs rest : List Char} (h : skipSpace cs = ']' :: rest) (first : Bool)
    (r : ρ) :
    readItems fs first r cs = .ok (r, rest) := by
  cases fs <;> simp [readItems, h]

theorem readItems_step [Rounding] {f : Field ρ} (hf : f.change.Agrees) {j : Json}
    {items : List Json} {cs after rest more : List Char} (hvalue : Spells (.value j) cs after)
    {r r' : ρ}
    (htail : ∀ r, readItems fs false r after = .ok (r', more) ↔ Fit fs items r r' ∧ more = rest) :
    (do let (change, after) ← f.change.read cs
        readItems fs false (change r) after) = .ok (r', more) ↔
      Fit (f :: fs) (j :: items) r r' ∧ more = rest := by
  rw [bind_eq_ok_iff, fit_cons_iff]
  constructor
  · intro h
    obtain ⟨⟨change, after'⟩, hread, hitems⟩ := h
    obtain ⟨hchange, rfl⟩ := (hf hvalue change after').mp hread
    obtain ⟨hfit, hmore⟩ := (htail (change r)).mp hitems
    exact ⟨⟨change, hchange, hfit⟩, hmore⟩
  · intro h
    obtain ⟨⟨change, hchange, hfit⟩, hmore⟩ := h
    exact ⟨(change, after), (hf hvalue change after).mpr ⟨hchange, rfl⟩,
      (htail (change r)).mpr ⟨hfit, hmore⟩⟩

theorem readItems_end {cs rest : List Char} (h : skipSpace cs = ']' :: rest) {r r' : ρ}
    {more : List Char} :
    readItems fs false r cs = .ok (r', more) ↔ Fit fs [] r r' ∧ more = rest := by
  rw [readItems_done h, fit_nil_iff]
  simp [eq_comm (a := rest)]

theorem readItems_from [Rounding] (hagrees : ∀ f ∈ fs, f.change.Agrees) {f : Field ρ}
    (hf : f.change.Agrees) {items : List Json} {cs rest : List Char}
    (hspells : Spells (.items items) cs rest) {r r' : ρ} {more : List Char} :
    (do let (change, after) ← f.change.read cs
        readItems fs false (change r) after) = .ok (r', more) ↔
      Fit (f :: fs) items r r' ∧ more = rest := by
  induction fs generalizing f items cs r with
  | nil =>
    obtain ⟨j, items, after, rfl, hvalue, ⟨rfl, hend⟩ | ⟨next, hcomma, hitems⟩⟩ :=
      hspells.items_cases
    · exact readItems_step hf hvalue fun r ↦ readItems_end hend
    · apply readItems_step hf hvalue
      intro r
      obtain ⟨_, _, _, rfl, -⟩ := hitems.items_cases
      simp [readItems, hcomma, Fit]
  | cons f' fs ih =>
    obtain ⟨j, items, after, rfl, hvalue, ⟨rfl, hend⟩ | ⟨next, hcomma, hitems⟩⟩ :=
      hspells.items_cases
    · exact readItems_step hf hvalue fun r ↦ readItems_end hend
    · apply readItems_step hf hvalue
      intro r
      have hread : readItems (f' :: fs) false r after = (do
          let (change, after) ← f'.change.read next
          readItems fs false (change r) after) := by
        simp only [readItems, hcomma]
        rfl
      rw [hread]
      exact ih (fun g hg ↦ hagrees g (List.mem_cons_of_mem f' hg))
        (hagrees f' List.mem_cons_self) hitems

theorem readItems_eq_ok_iff [Rounding] (hagrees : ∀ f ∈ fs, f.change.Agrees) {items : List Json}
    {cs rest : List Char} (hspells : Spells (.items items) (skipSpace cs) rest) {r r' : ρ}
    {more : List Char} :
    readItems fs true r cs = .ok (r', more) ↔ Fit fs items r r' ∧ more = rest := by
  have hhead := hspells.items_head_ne
  rw [skipSpace_skipSpace] at hhead
  obtain ⟨j, js, -, rfl, -⟩ := hspells.items_cases
  cases fs with
  | nil => simp [readItems, Fit]
  | cons f fs =>
    have hread : readItems (f :: fs) true r cs = (do
        let (change, after) ← f.change.read (skipSpace cs)
        readItems fs false (change r) after) := by
      rw [readItems]
      split
      · next tail hbracket => exact absurd hbracket (hhead tail)
      · rfl
    rw [hread]
    exact readItems_from (fun g hg ↦ hagrees g (List.mem_cons_of_mem f hg))
      (hagrees f List.mem_cons_self) hspells

end Field

namespace Decoder

variable [Rounding] {expected : String} {initial : ρ} {fs : List (Field ρ)}

theorem record_ofJson_arr_eq_ok_iff {items : List Json} {r : ρ} :
    (record expected initial fs).ofJson (.arr items) = .ok r ↔ Field.Fit fs items initial r := by
  refine bind_eq_ok_iff.trans ?_
  unfold Field.Fit
  constructor
  · intro h
    obtain ⟨r', hitems, hr⟩ := h
    split at hr
    · cases hr
    · next hlength =>
      cases hr
      exact ⟨hitems, Nat.le_of_not_lt hlength⟩
  · intro h
    exact ⟨r, h.1, if_neg (Nat.not_lt_of_le h.2)⟩

theorem record_read_obj (hagrees : ∀ f ∈ fs, f.change.Agrees) {members : List (String × Json)}
    {cs tail rest : List Char} (hhead : skipSpace cs = '{' :: tail)
    (hlists : Lists (fs.map (·.name)) members (skipSpace tail) rest) (r : ρ) (more : List Char) :
    (record expected initial fs).read cs = .ok (r, more) ↔
      (record expected initial fs).ofJson (.obj members) = .ok r ∧ more = rest := by
  have hread : (record expected initial fs).read cs =
      Field.readMembers fs ((skipSpace tail).length + 1) (initial, []) (skipSpace tail) := by
    simp only [record, hhead]
    split
    · next tail' hbrace =>
      exact absurd (by rw [skipSpace_skipSpace, hbrace]) (hlists.head_ne tail')
    · rfl
  rw [hread, record_ofJson_obj_eq_ok_iff]
  exact Field.readMembers_eq_ok_iff hagrees hlists (hlists.length_le.trans (Nat.le_succ _))

theorem record_read_empty {cs tail rest : List Char} (hhead : skipSpace cs = '{' :: tail)
    (hbrace : skipSpace tail = '}' :: rest) (r : ρ) (more : List Char) :
    (record expected initial fs).read cs = .ok (r, more) ↔
      (record expected initial fs).ofJson (.obj []) = .ok r ∧ more = rest := by
  simp [record, hhead, hbrace, Except.map, pure, Except.pure, eq_comm (a := rest)]

theorem record_agrees (hagrees : ∀ f ∈ fs, f.change.Agrees) :
    (record expected initial fs).Agrees := by
  intro j cs rest hspells r more
  cases hspells with
  | noMembers hhead hbrace => exact record_read_empty hhead hbrace r more
  | obj hhead hmembers => exact record_read_obj hagrees hhead hmembers.lists r more
  | @noItems _ tail _ hhead hbracket =>
    have hread : (record expected initial fs).read cs = .ok (initial, rest) := by
      simp only [record, hhead]
      exact Field.readItems_done hbracket true initial
    rw [hread, record_ofJson_arr_eq_ok_iff, Field.fit_nil_iff]
    simp [eq_comm (a := rest)]
  | @arr _ tail _ items hhead hitems =>
    have hread : (record expected initial fs).read cs = Field.readItems fs true initial tail := by
      simp only [record, hhead]
    rw [hread, record_ofJson_arr_eq_ok_iff]
    exact Field.readItems_eq_ok_iff hagrees hitems
  | number hhead hdigit =>
    obtain ⟨-, -, -, -, -, hbracket, hbrace, -, -⟩ := digit_ne hdigit
    simp [record, hhead, hbracket, hbrace, refuse_ne_ok]
  | _ hhead => simp [record, hhead, refuse_ne_ok]

theorem Agrees.ofText_eq_ok_iff {d : Decoder α} (h : d.Agrees) {s : String} {j : Json}
    (hspelled : Spelled s j) {a : α} : d.ofText s = .ok a ↔ d.ofJson j = .ok a := by
  obtain ⟨rest, hspells, hend⟩ := hspelled
  exact Decoder.ofText_eq_ok_iff (h hspells) hend

theorem record_ofText_eq_ok_iff (hagrees : ∀ f ∈ fs, f.change.Agrees) {s : String}
    {members : List (String × Json)} (hlisted : Listed (fs.map (·.name)) s members) {r : ρ} :
    (record expected initial fs).ofText s = .ok r ↔
      (record expected initial fs).ofJson (.obj members) = .ok r := by
  cases hlisted with
  | empty hhead hbrace hend => exact ofText_eq_ok_iff (record_read_empty hhead hbrace) hend
  | object hhead hlists hend => exact ofText_eq_ok_iff (record_read_obj hagrees hhead hlists) hend

end Decoder

end Telemetry.Json
