import Mathlib
import Telemetry.Json.Decoder
import Telemetry.Proofs.Json.Lexemes

namespace Telemetry

theorem find?_named_eq_some_iff {α : Type} {name : α → String} {l : List α}
    (nodup : (l.map name).Nodup) {key : String} {a : α} :
    l.find? (fun a ↦ name a == key) = some a ↔ a ∈ l ∧ name a = key := by
  constructor
  · intro h
    exact ⟨List.mem_of_find?_eq_some h, by simpa using List.find?_some h⟩
  · intro h
    cases hfound : l.find? fun a ↦ name a == key with
    | none => simpa [h.2] using List.find?_eq_none.mp hfound a h.1
    | some a' =>
      have hname : name a' = key := by simpa using List.find?_some hfound
      rw [List.inj_on_of_nodup_map nodup (List.mem_of_find?_eq_some hfound) h.1
        (hname.trans h.2.symm)]

namespace Json

variable {α β ρ : Type}

namespace Decoder

variable {d : Decoder α} {j : Json}

theorem map_ofJson_eq_ok_iff {f : α → β} {b : β} :
    (d.map f).ofJson j = .ok b ↔ ∃ a, d.ofJson j = .ok a ∧ f a = b :=
  map_eq_ok_iff

theorem map_ofJson_isOk_iff {f : α → β} :
    (∃ b, (d.map f).ofJson j = .ok b) ↔ ∃ a, d.ofJson j = .ok a := by
  simp [map_ofJson_eq_ok_iff]

section Scalars

variable [Rounding]

theorem text_ofJson_eq_ok_iff {s : String} : text.ofJson j = .ok s ↔ j = .str s := by
  cases j <;> simp [text]

theorem flag_ofJson_eq_ok_iff {b : Bool} : flag.ofJson j = .ok b ↔ j = .bool b := by
  cases j <;> simp [flag]

theorem unit_ofJson_eq_ok_iff {u : Unit} : unit.ofJson j = .ok u ↔ j = .null := by
  cases j <;> simp [unit]

theorem number_ofJson_eq_ok_iff {accept : Number → Except Mismatch α} {expected : String} {a : α} :
    (number accept expected).ofJson j = .ok a ↔ ∃ n, j = .num n ∧ accept n = .ok a := by
  cases j <;> simp [number]

theorem word_ofJson_eq_ok_iff {n : Nat} : word.ofJson j = .ok n ↔ j = .num (.natural n) := by
  unfold word
  rw [number_ofJson_eq_ok_iff]
  constructor
  · rintro ⟨k, rfl, h⟩
    cases k <;> simp_all
  · rintro rfl
    exact ⟨_, rfl, rfl⟩

theorem real_ofJson_eq_ok_iff {x : Binary64} :
    real.ofJson j = .ok x ↔ ∃ n, j = .num n ∧ n.toBinary64 = x := by
  unfold real
  simp [number_ofJson_eq_ok_iff]

end Scalars

theorem nullable_ofJson_eq_ok_iff (hnull : ∀ a, d.ofJson .null ≠ .ok a) {o : Option α} :
    d.nullable.ofJson j = .ok o ↔
      (j = .null ∧ o = none) ∨ ∃ a, d.ofJson j = .ok a ∧ o = some a := by
  cases j
  case null => simp [nullable, hnull, eq_comm]
  all_goals
    rw [nullable]
    simp [map_eq_ok_iff, eq_comm (b := o)]

end Decoder

namespace Variant

variable {vs : List (Variant α)} {v : Variant α} {name : String}

theorem find_eq_ok_iff (nodup : (vs.map (·.name)).Nodup) :
    find vs name = .ok v ↔ v ∈ vs ∧ v.name = name := by
  rw [← find?_named_eq_some_iff nodup]
  unfold find
  cases vs.find? fun v ↦ v.name == name <;> simp

theorem plain_eq_ok_iff {a : α} : v.plain = .ok a ↔ v.payload = .none a := by
  unfold plain
  cases v.payload <;> simp

theorem ofJson_eq_ok_iff [Rounding] {j : Json} {a : α} :
    v.ofJson j = .ok a ↔
      (v.payload = .none a ∧ j = .null) ∨ ∃ d, v.payload = .one d ∧ d.ofJson j = .ok a := by
  unfold ofJson
  cases v.payload with
  | none value => simp [map_eq_ok_iff, Decoder.unit_ofJson_eq_ok_iff, and_comm]
  | one d => simp

end Variant

namespace Decoder

variable [Rounding] {vs : List (Variant α)} {a : α}

theorem choice_ofJson_str {name : String} : (choice vs).ofJson (.str name) = .ok a ↔
    ∃ v, Variant.find vs name = .ok v ∧ v.plain = .ok a :=
  bind_eq_ok_iff

theorem choice_ofJson_obj {name : String} {j : Json} :
    (choice vs).ofJson (.obj [(name, j)]) = .ok a ↔
    ∃ v, Variant.find vs name = .ok v ∧ v.ofJson j = .ok a :=
  bind_eq_ok_iff

theorem choice_ofJson_eq_ok_iff (nodup : (vs.map (·.name)).Nodup) {j : Json} :
    (choice vs).ofJson j = .ok a ↔ ∃ v ∈ vs,
      (v.payload = .none a ∧ (j = .str v.name ∨ j = .obj [(v.name, .null)])) ∨
        ∃ d x, v.payload = .one d ∧ j = .obj [(v.name, x)] ∧ d.ofJson x = .ok a := by
  constructor
  · intro h
    cases j with
    | str name =>
      obtain ⟨v, hv, ha⟩ := choice_ofJson_str.mp h
      obtain ⟨hmem, rfl⟩ := (Variant.find_eq_ok_iff nodup).mp hv
      exact ⟨v, hmem, .inl ⟨Variant.plain_eq_ok_iff.mp ha, .inl rfl⟩⟩
    | obj members =>
      obtain _ | ⟨⟨name, x⟩, _ | ⟨m, members⟩⟩ := members
      · cases h
      · obtain ⟨v, hv, ha⟩ := choice_ofJson_obj.mp h
        obtain ⟨hmem, rfl⟩ := (Variant.find_eq_ok_iff nodup).mp hv
        obtain ⟨hnone, rfl⟩ | ⟨d, hd, ha⟩ := Variant.ofJson_eq_ok_iff.mp ha
        · exact ⟨v, hmem, .inl ⟨hnone, .inr rfl⟩⟩
        · exact ⟨v, hmem, .inr ⟨d, x, hd, rfl, ha⟩⟩
      · cases h
    | null | bool b | num n | arr items => cases h
  · intro h
    obtain ⟨v, hmem, h⟩ := h
    have hfind := (Variant.find_eq_ok_iff nodup).mpr ⟨hmem, rfl⟩
    obtain ⟨hnone, rfl | rfl⟩ | ⟨d, x, hd, rfl, ha⟩ := h
    · exact choice_ofJson_str.mpr ⟨v, hfind, Variant.plain_eq_ok_iff.mpr hnone⟩
    · exact choice_ofJson_obj.mpr ⟨v, hfind, Variant.ofJson_eq_ok_iff.mpr (.inl ⟨hnone, rfl⟩)⟩
    · exact choice_ofJson_obj.mpr ⟨v, hfind, Variant.ofJson_eq_ok_iff.mpr (.inr ⟨d, hd, ha⟩)⟩

end Decoder

namespace Field

variable {fs : List (Field ρ)} {f : Field ρ} {key : String}

theorem find?_eq_some_iff (nodup : (fs.map (·.name)).Nodup) :
    find? fs key = some f ↔ f ∈ fs ∧ f.name = key :=
  find?_named_eq_some_iff nodup

theorem find?_eq_none_iff : find? fs key = none ↔ ∀ f ∈ fs, f.name ≠ key := by
  simp [find?]

def Typed (fs : List (Field ρ)) (members : List (String × Json)) : Prop :=
  ∀ m ∈ members, ∀ f, find? fs m.1 = some f → ∃ change, f.change.ofJson m.2 = .ok change

theorem acceptMember_eq_ok_iff {p p' : Progress ρ} {m : String × Json} :
    acceptMember fs p m = .ok p' ↔
      (find? fs m.1 = none ∧ p' = p) ∨
        ∃ f change, find? fs m.1 = some f ∧ m.1 ∉ p.2 ∧ f.change.ofJson m.2 = .ok change ∧
          p' = (change p.1, m.1 :: p.2) := by
  unfold acceptMember
  cases find? fs m.1 with
  | none => simp [eq_comm]
  | some f =>
    by_cases hseen : m.1 ∈ p.2
    · simp [hseen]
    · simp [hseen, map_eq_ok_iff, eq_comm (b := p')]

theorem mem_seen_of_acceptMember {p p' : Progress ρ} {m : String × Json}
    (h : acceptMember fs p m = .ok p') (hkey : key ∈ p'.2) : key = m.1 ∨ key ∈ p.2 := by
  obtain ⟨-, rfl⟩ | ⟨f, change, -, -, -, rfl⟩ := acceptMember_eq_ok_iff.mp h
  · exact .inr hkey
  · exact List.mem_cons.mp hkey

theorem acceptMember_isOk_iff {p : Progress ρ} {m : String × Json} (hseen : m.1 ∉ p.2) :
    (∃ p', acceptMember fs p m = .ok p') ↔
      ∀ f, find? fs m.1 = some f → ∃ change, f.change.ofJson m.2 = .ok change := by
  simp only [acceptMember_eq_ok_iff]
  cases find? fs m.1 with
  | none => simp
  | some f => simp [hseen]

theorem foldlM_cons_eq_ok_iff {members : List (String × Json)} {p p' : Progress ρ}
    {m : String × Json} :
    (m :: members).foldlM (acceptMember fs) p = .ok p' ↔
      ∃ q, acceptMember fs p m = .ok q ∧ members.foldlM (acceptMember fs) q = .ok p' := by
  rw [List.foldlM_cons, bind_eq_ok_iff]

theorem unseen_of_acceptMember {members : List (String × Json)} {p q : Progress ρ}
    {m : String × Json} (nodup : ((m :: members).map (·.1)).Nodup)
    (hseen : ∀ n ∈ m :: members, n.1 ∉ p.2) (h : acceptMember fs p m = .ok q) :
    ∀ n ∈ members, n.1 ∉ q.2 := by
  intro n hn hkey
  obtain heq | hmem := mem_seen_of_acceptMember h hkey
  · apply (List.nodup_cons.mp nodup).1
    exact List.mem_map.mpr ⟨n, hn, heq⟩
  · exact hseen n (List.mem_cons_of_mem m hn) hmem

theorem foldlM_acceptMember_isOk_iff {members : List (String × Json)} {p : Progress ρ}
    (nodup : (members.map (·.1)).Nodup) (hseen : ∀ m ∈ members, m.1 ∉ p.2) :
    (∃ p', members.foldlM (acceptMember fs) p = .ok p') ↔ Typed fs members := by
  induction members generalizing p with
  | nil => simp [Typed, pure, Except.pure]
  | cons m members ih =>
    have hrest : ∀ q, acceptMember fs p m = .ok q →
        ((∃ p', members.foldlM (acceptMember fs) q = .ok p') ↔ Typed fs members) := by
      intro q hq
      exact ih (List.nodup_cons.mp nodup).2 (unseen_of_acceptMember nodup hseen hq)
    have htyped : Typed fs (m :: members) ↔
        (∃ q, acceptMember fs p m = .ok q) ∧ Typed fs members := by
      rw [acceptMember_isOk_iff (hseen m List.mem_cons_self)]
      simp [Typed]
    simp only [foldlM_cons_eq_ok_iff]
    rw [htyped]
    constructor
    · rintro ⟨p', q, hq, hp'⟩
      exact ⟨⟨q, hq⟩, (hrest q hq).mp ⟨p', hp'⟩⟩
    · rintro ⟨⟨q, hq⟩, hmembers⟩
      obtain ⟨p', hp'⟩ := (hrest q hq).mpr hmembers
      exact ⟨p', q, hq, hp'⟩

/-- What a field of a record holds after a change: what the decoder takes from the value, if the
change is that of the member with its name, and otherwise what it was. -/
def Shows (fs : List (Field ρ)) (name : String) (d : Decoder α) (get : ρ → α) : Prop :=
  ∀ f ∈ fs, ∀ j change, f.change.ofJson j = .ok change → ∀ r,
    if f.name = name then d.ofJson j = .ok (get (change r)) else get (change r) = get r

/-- What the member with a key says, or a default where there is none. -/
def Fills (P : Json → α → Prop) (members : List (String × Json)) (key : String) (default a : α) :
    Prop :=
  (∀ j, (key, j) ∈ members → P j a) ∧ ((∀ j, (key, j) ∉ members) → a = default)

theorem Fills.imp {P Q : Json → α → Prop} {members : List (String × Json)} {default a : α}
    (h : Fills P members key default a) (hPQ : ∀ j a, (key, j) ∈ members → P j a → Q j a) :
    Fills Q members key default a :=
  ⟨fun j hj ↦ hPQ j a hj (h.1 j hj), h.2⟩

theorem Fills.unique {P : Json → α → Prop} {members : List (String × Json)} {default a b : α}
    (h : Fills P members key default a) (hP : ∀ j a b, P j a → P j b → a = b)
    (h' : Fills P members key default b) : a = b := by
  by_cases hmem : ∃ j, (key, j) ∈ members
  · obtain ⟨j, hj⟩ := hmem
    exact hP j a b (h.1 j hj) (h'.1 j hj)
  · have hnone : ∀ j, (key, j) ∉ members := by
      intro j hj
      exact hmem ⟨j, hj⟩
    exact (h.2 hnone).trans (h'.2 hnone).symm

theorem shows_acceptMember {name : String} {d : Decoder α} {get : ρ → α} (h : Shows fs name d get)
    (hname : ∃ f ∈ fs, f.name = name) {p q : Progress ρ} {m : String × Json}
    (hq : acceptMember fs p m = .ok q) :
    if m.1 = name then d.ofJson m.2 = .ok (get q.1) else get q.1 = get p.1 := by
  obtain ⟨hnone, rfl⟩ | ⟨f, change, hfind, -, hchange, rfl⟩ := acceptMember_eq_ok_iff.mp hq
  · obtain ⟨f, hf, hfname⟩ := hname
    have hne : m.1 ≠ name := by
      intro heq
      exact find?_eq_none_iff.mp hnone f hf (hfname.trans heq.symm)
    rw [if_neg hne]
  · have hf : f ∈ fs := List.mem_of_find?_eq_some hfind
    have hfname : f.name = m.1 := by simpa using List.find?_some hfind
    rw [← hfname]
    exact h f hf m.2 change hchange p.1

theorem fills_of_foldlM {name : String} {d : Decoder α} {get : ρ → α} (h : Shows fs name d get)
    (hname : ∃ f ∈ fs, f.name = name) {members : List (String × Json)} {p p' : Progress ρ}
    (nodup : (members.map (·.1)).Nodup)
    (hp' : members.foldlM (acceptMember fs) p = .ok p') :
    Fills (d.ofJson · = .ok ·) members name (get p.1) (get p'.1) := by
  induction members generalizing p with
  | nil =>
    cases hp'
    exact ⟨nofun, fun _ ↦ rfl⟩
  | cons m members ih =>
    rw [List.map_cons, List.nodup_cons] at nodup
    obtain ⟨q, hq, hrest⟩ := foldlM_cons_eq_ok_iff.mp hp'
    obtain ⟨hmember, hdefault⟩ := ih nodup.2 hrest
    have hstep := shows_acceptMember h hname hq
    by_cases hkey : m.1 = name
    · have hlast : ∀ j, (name, j) ∉ members := by
        intro j hj
        exact nodup.1 (List.mem_map.mpr ⟨_, hj, hkey.symm⟩)
      rw [if_pos hkey, ← hdefault hlast] at hstep
      constructor
      · intro j hj
        obtain rfl | hj := List.mem_cons.mp hj
        · exact hstep
        · exact absurd hj (hlast j)
      · intro hnone
        apply absurd _ (hnone m.2)
        rw [← hkey]
        exact List.mem_cons_self
    · rw [if_neg hkey] at hstep
      have hmem : ∀ j, (name, j) ∈ m :: members ↔ (name, j) ∈ members := by
        intro j
        rw [List.mem_cons, or_iff_right]
        rintro rfl
        exact hkey rfl
      rw [← hstep]
      constructor
      · intro j hj
        exact hmember j ((hmem j).mp hj)
      · intro hnone
        exact hdefault fun j hj ↦ hnone j ((hmem j).mpr hj)

theorem foldlM_acceptItem {given : List (Field ρ)} (nodup : (given.map (·.name)).Nodup)
    (hgiven : ∀ f ∈ given, find? fs f.name = some f) {seen : List String}
    (hseen : ∀ f ∈ given, f.name ∉ seen) (items : List Json) (r : ρ) :
    (given.zip items).foldlM acceptItem r =
      (((given.map (·.name)).zip items).foldlM (acceptMember fs) (r, seen)).map (·.1) := by
  induction given generalizing items r seen with
  | nil => rfl
  | cons f given ih =>
    cases items with
    | nil => rfl
    | cons j items =>
      rw [List.map_cons, List.nodup_cons] at nodup
      have hfind := hgiven f List.mem_cons_self
      have hunseen := hseen f List.mem_cons_self
      have hmember : acceptMember fs (r, seen) (f.name, j) =
          (f.change.ofJson j).map fun change ↦ (change r, f.name :: seen) := by
        simp [acceptMember, hfind, hunseen]
      rw [List.map_cons, List.zip_cons_cons, List.zip_cons_cons, List.foldlM_cons,
        List.foldlM_cons, hmember, acceptItem]
      cases f.change.ofJson j with
      | error m => rfl
      | ok change =>
        refine ih nodup.2 (fun g hg ↦ hgiven g (List.mem_cons_of_mem f hg)) ?_ items (change r)
        intro g hg hmem
        obtain heq | hmem := List.mem_cons.mp hmem
        · exact nodup.1 (List.mem_map.mpr ⟨g, hg, heq⟩)
        · exact hseen g (List.mem_cons_of_mem f hg) hmem

end Field

namespace Decoder

variable [Rounding] {expected : String} {initial : ρ} {fs : List (Field ρ)}

theorem record_ofJson_obj_eq_ok_iff {members : List (String × Json)} {r : ρ} :
    (record expected initial fs).ofJson (.obj members) = .ok r ↔
      ∃ p, members.foldlM (Field.acceptMember fs) (initial, []) = .ok p ∧ p.1 = r :=
  map_eq_ok_iff

theorem record_ofJson_obj_isOk_iff {members : List (String × Json)}
    (nodup : (members.map (·.1)).Nodup) :
    (∃ r, (record expected initial fs).ofJson (.obj members) = .ok r) ↔ Field.Typed fs members := by
  rw [← Field.foldlM_acceptMember_isOk_iff (p := (initial, [])) nodup (by simp)]
  simp [record_ofJson_obj_eq_ok_iff]

theorem record_ofJson_arr (nodup : (fs.map (·.name)).Nodup) {items : List Json}
    (hlength : items.length ≤ fs.length) :
    (record expected initial fs).ofJson (.arr items) =
      (record expected initial fs).ofJson (.obj ((fs.map (·.name)).zip items)) := by
  have hfind : ∀ f ∈ fs, Field.find? fs f.name = some f := by
    intro f hf
    exact (Field.find?_eq_some_iff nodup).mpr ⟨hf, rfl⟩
  have hnone : ∀ f ∈ fs, f.name ∉ ([] : List String) := by simp
  have hfits : ¬ fs.length < items.length := by omega
  have hitems := Field.foldlM_acceptItem nodup hfind hnone items initial
  show (do
    let r ← (fs.zip items).foldlM Field.acceptItem initial
    if fs.length < items.length then .error (.tooLong items.length) else .ok r) = _
  simp only [if_neg hfits]
  refine Eq.trans ?_ hitems
  cases (fs.zip items).foldlM Field.acceptItem initial <;> rfl

end Decoder

end Json

end Telemetry
