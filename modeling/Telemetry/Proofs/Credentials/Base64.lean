import Mathlib
import Telemetry.Credentials.Material
import Telemetry.Proofs.Text.Trim
import Telemetry.Proofs.Text.Utf8

namespace Telemetry.Base64

/-- The values of a whole number of bytes: groups of four, of which the last one may be cut short
where no more bits of a byte follow. -/
inductive Whole : List Nat → Prop
  | nil : Whole []
  | two {a b : Nat} (h : b % 16 = 0) : Whole [a, b]
  | three {a b c : Nat} (h : c % 4 = 0) : Whole [a, b, c]
  | group {a b c d : Nat} {ns : List Nat} (h : Whole ns) : Whole (a :: b :: c :: d :: ns)

def spelled (ns : List Nat) : List UInt8 :=
  ns.map symbol ++ List.replicate ((4 - ns.length % 4) % 4) padding

variable {n offset : Nat} {ns : List Nat} {bs : List UInt8}

section Symbols

theorem value?_symbol (h : n < 64) : value? (symbol n) = some n := by
  have hall : ∀ n < 64, value? (symbol n) = some n := by decide
  exact hall n h

theorem value?_eq_some_iff {b : UInt8} : value? b = some n ↔ n < 64 ∧ b = symbol n := by
  constructor
  · intro h
    have hall : ∀ m < 256, ∀ n ∈ value? (UInt8.ofNat m), n < 64 ∧ UInt8.ofNat m = symbol n := by
      decide +kernel
    have hbyte := hall b.toNat b.toNat_lt n
    rw [UInt8.ofNat_toNat] at hbyte
    exact hbyte h
  · rintro ⟨h, rfl⟩
    exact value?_symbol h

theorem symbol_ne_padding (h : n < 64) : symbol n ≠ padding := by
  intro hp
  have hvalue := value?_symbol h
  rw [hp] at hvalue
  cases hvalue

theorem values_symbols (hns : ∀ n ∈ ns, n < 64) (offset : Nat) :
    values offset (ns.map symbol) = .ok ns := by
  induction ns generalizing offset with
  | nil => rfl
  | cons n ns ih =>
    obtain ⟨hn, hns⟩ := List.forall_mem_cons.mp hns
    rw [List.map_cons, values, value?_symbol hn, ih hns]
    rfl

theorem of_values_eq_ok (h : values offset bs = .ok ns) :
    (∀ n ∈ ns, n < 64) ∧ bs = ns.map symbol := by
  induction bs generalizing offset ns with
  | nil =>
    cases h
    exact ⟨nofun, rfl⟩
  | cons b bs ih =>
    rw [values] at h
    split at h
    · cases h
    · next n hn =>
      cases hrest : values (offset + 1) bs with
      | error f =>
        rw [hrest] at h
        cases h
      | ok ms =>
        rw [hrest] at h
        cases h
        obtain ⟨hlt, rfl⟩ := value?_eq_some_iff.mp hn
        obtain ⟨hms, rfl⟩ := ih hrest
        exact ⟨List.forall_mem_cons.mpr ⟨hlt, hms⟩, rfl⟩

end Symbols

section Forms

theorem spelled_group (a b c d : Nat) (ns : List Nat) : spelled (a :: b :: c :: d :: ns) =
    symbol a :: symbol b :: symbol c :: symbol d :: spelled ns := by
  have hlength : (a :: b :: c :: d :: ns).length % 4 = ns.length % 4 := by
    simp only [List.length_cons]
    omega
  rw [spelled, hlength]
  rfl

theorem encode_ofValues (hns : ∀ n ∈ ns, n < 64) (h : Whole ns) :
    encode (ofValues ns) = spelled ns := by
  induction h with
  | nil => rfl
  | @two a b h =>
    have ha : a < 64 := hns a (by simp)
    have hb : b < 64 := hns b (by simp)
    have hall : (UInt8.ofNat ((a * 64 + b) / 16)).toNat * 16 = a * 64 + b := by
      rw [UInt8.toNat_ofNat']
      omega
    have hfirst : (a * 64 + b) / 64 = a := by omega
    have hsecond : (a * 64 + b) % 64 = b := by omega
    simp only [ofValues, encode, hall, hfirst, hsecond]
    rfl
  | @three a b c h =>
    have ha : a < 64 := hns a (by simp)
    have hb : b < 64 := hns b (by simp)
    have hc : c < 64 := hns c (by simp)
    have hall : (UInt8.ofNat (((a * 64 + b) * 64 + c) / 1024)).toNat * 1024 +
        (UInt8.ofNat (((a * 64 + b) * 64 + c) / 4 % 256)).toNat * 4 = (a * 64 + b) * 64 + c := by
      simp only [UInt8.toNat_ofNat']
      omega
    have hfirst : ((a * 64 + b) * 64 + c) / 4096 = a := by omega
    have hsecond : ((a * 64 + b) * 64 + c) / 64 % 64 = b := by omega
    have hthird : ((a * 64 + b) * 64 + c) % 64 = c := by omega
    simp only [ofValues, encode, hall, hfirst, hsecond, hthird]
    rfl
  | @group a b c d ns h ih =>
    have ha : a < 64 := hns a (by simp)
    have hb : b < 64 := hns b (by simp)
    have hc : c < 64 := hns c (by simp)
    have hd : d < 64 := hns d (by simp)
    have hrest := ih fun n hn ↦ hns n (by simp [hn])
    generalize hN : ((a * 64 + b) * 64 + c) * 64 + d = N
    have hall : (UInt8.ofNat (N / 65536)).toNat * 65536 +
        (UInt8.ofNat (N / 256 % 256)).toNat * 256 + (UInt8.ofNat (N % 256)).toNat = N := by
      simp only [UInt8.toNat_ofNat']
      omega
    have hfirst : N / 262144 = a := by omega
    have hsecond : N / 4096 % 64 = b := by omega
    have hthird : N / 64 % 64 = c := by omega
    have hfourth : N % 64 = d := by omega
    rw [ofValues, hN, spelled_group]
    simp only [encode, hall, hfirst, hsecond, hthird, hfourth, hrest]

theorem exists_values (bytes : List UInt8) :
    ∃ ns, (∀ n ∈ ns, n < 64) ∧ Whole ns ∧ ofValues ns = bytes := by
  induction bytes using encode.induct with
  | case1 x y z rest ih =>
    obtain ⟨ns, hns, hwhole, rfl⟩ := ih
    have hx := x.toNat_lt
    have hy := y.toNat_lt
    have hz := z.toNat_lt
    generalize hN : x.toNat * 65536 + y.toNat * 256 + z.toNat = N
    refine ⟨N / 262144 :: N / 4096 % 64 :: N / 64 % 64 :: N % 64 :: ns, ?_, .group hwhole, ?_⟩
    · simp only [List.forall_mem_cons]
      exact ⟨by omega, by omega, by omega, by omega, hns⟩
    · have hall : ((N / 262144 * 64 + N / 4096 % 64) * 64 + N / 64 % 64) * 64 + N % 64 = N := by
        omega
      have hfirst : N / 65536 = x.toNat := by omega
      have hsecond : N / 256 % 256 = y.toNat := by omega
      have hthird : N % 256 = z.toNat := by omega
      simp only [ofValues, hall, hfirst, hsecond, hthird, UInt8.ofNat_toNat]
  | case2 x y =>
    have hx := x.toNat_lt
    have hy := y.toNat_lt
    generalize hN : x.toNat * 1024 + y.toNat * 4 = N
    refine ⟨[N / 4096, N / 64 % 64, N % 64], ?_, .three (by omega), ?_⟩
    · simp only [List.forall_mem_cons]
      exact ⟨by omega, by omega, by omega, nofun⟩
    · have hall : (N / 4096 * 64 + N / 64 % 64) * 64 + N % 64 = N := by omega
      have hfirst : N / 1024 = x.toNat := by omega
      have hsecond : N / 4 % 256 = y.toNat := by omega
      simp only [ofValues, hall, hfirst, hsecond, UInt8.ofNat_toNat]
  | case3 x =>
    have hx := x.toNat_lt
    generalize hN : x.toNat * 16 = N
    refine ⟨[N / 64, N % 64], ?_, .two (by omega), ?_⟩
    · simp only [List.forall_mem_cons]
      exact ⟨by omega, by omega, nofun⟩
    · have hall : (N / 64 * 64 + N % 64) / 16 = x.toNat := by omega
      simp only [ofValues, hall, UInt8.ofNat_toNat]
  | case4 => exact ⟨[], nofun, .nil, rfl⟩

theorem length_spelled (ns : List Nat) : (spelled ns).length % 4 = 0 := by
  rw [spelled, List.length_append, List.length_map, List.length_replicate]
  omega

end Forms

section Groups

theorem guarded_eq_ok_iff {p : Prop} [Decidable p] {f : Fault} {r : Except Fault (List Nat)} :
    (if p then .error f else r) = .ok ns ↔ ¬ p ∧ r = .ok ns := by
  split <;> simp [*]

/-- What is asked of a last group: symbols, then nothing but padding and no more of it than two
symbols allow, a whole number of bytes, and nothing in the bits left over. -/
theorem lastGroup_eq_ok_iff : lastGroup offset bs = .ok ns ↔
    values offset (bs.takeWhile (· != padding)) = .ok ns ∧
    (bs.dropWhile (· != padding) ≠ [] →
      1 < ns.length ∧ ∀ b ∈ bs.dropWhile (· != padding), b = padding) ∧
    ns.length ≠ 1 ∧ bs.length % 4 = 0 ∧
    ns.getLastD 0 % (if ns.length = 2 then 16 else if ns.length = 3 then 4 else 1) = 0 := by
  have hpads (ms : List Nat) : ¬ (!(bs.dropWhile (· != padding)).isEmpty &&
        (ms.length < 2 || (bs.dropWhile (· != padding)).any (· != padding))) = true ↔
      (bs.dropWhile (· != padding) ≠ [] →
        1 < ms.length ∧ ∀ b ∈ bs.dropWhile (· != padding), b = padding) := by
    simp
  unfold lastGroup
  dsimp only
  cases values offset (bs.takeWhile (· != padding)) with
  | error f => simp [bind, Except.bind]
  | ok ms =>
    simp only [bind, Except.bind, throw, throwThe, MonadExceptOf.throw, pure, Except.pure,
      guarded_eq_ok_iff, Except.ok.injEq, not_not, hpads]
    constructor
    · rintro ⟨hfilled, hone, hlength, hlast, rfl⟩
      exact ⟨rfl, hfilled, hone, hlength, hlast⟩
    · rintro ⟨rfl, hfilled, hone, hlength, hlast⟩
      exact ⟨hfilled, hone, hlength, hlast, rfl⟩

theorem takeWhile_spelled (hns : ∀ n ∈ ns, n < 64) :
    (spelled ns).takeWhile (· != padding) = ns.map symbol := by
  rw [spelled, List.takeWhile_append_of_pos]
  · simp
  · simp only [List.mem_map, bne_iff_ne]
    rintro _ ⟨n, hn, rfl⟩
    exact symbol_ne_padding (hns n hn)

theorem dropWhile_spelled (hns : ∀ n ∈ ns, n < 64) :
    (spelled ns).dropWhile (· != padding) =
      List.replicate ((4 - ns.length % 4) % 4) padding := by
  rw [spelled, List.dropWhile_append_of_pos]
  · rw [List.dropWhile_eq_self_iff]
    simp
  · simp only [List.mem_map, bne_iff_ne]
    rintro _ ⟨n, hn, rfl⟩
    exact symbol_ne_padding (hns n hn)

theorem lastGroup_spelled (hns : ∀ n ∈ ns, n < 64) (h : Whole ns) (hlen : ns.length ≤ 4)
    (offset : Nat) : lastGroup offset (spelled ns) = .ok ns := by
  rw [lastGroup_eq_ok_iff, takeWhile_spelled hns, dropWhile_spelled hns]
  refine ⟨values_symbols hns offset, ?_⟩
  cases h with
  | nil => decide
  | two hb => exact ⟨by simp, by simp, length_spelled _, hb⟩
  | three hc => exact ⟨by simp, by simp, length_spelled _, hc⟩
  | @group a b c d ns hrest =>
    obtain rfl : ns = [] := by
      rw [← List.length_eq_zero_iff]
      simp only [List.length_cons] at hlen
      omega
    exact ⟨by simp, by simp, length_spelled _, Nat.mod_one _⟩

theorem of_lastGroup_eq_ok (h : lastGroup offset bs = .ok ns) (hlen : bs.length ≤ 4) :
    (∀ n ∈ ns, n < 64) ∧ Whole ns ∧ bs = spelled ns := by
  obtain ⟨hvalues, hpads, hone, hlength, hlast⟩ := lastGroup_eq_ok_iff.mp h
  obtain ⟨hns, hsymbols⟩ := of_values_eq_ok hvalues
  have hbs : bs = ns.map symbol ++ bs.dropWhile (· != padding) := by
    rw [← hsymbols, List.takeWhile_append_dropWhile]
  refine ⟨hns, ?_⟩
  generalize bs.dropWhile (· != padding) = pads at hpads hbs
  have hfill : pads = List.replicate pads.length padding := by
    rw [List.eq_replicate_iff]
    exact ⟨rfl, fun b hb ↦ (hpads (List.ne_nil_of_mem hb)).2 b hb⟩
  have htwo : pads.length ≠ 0 → 1 < ns.length := fun h ↦
    (hpads (List.ne_nil_of_length_pos (Nat.pos_of_ne_zero h))).1
  have hsum : bs.length = ns.length + pads.length := by simp [hbs]
  have hspelled : bs = spelled ns := by
    have hcount : pads.length = (4 - ns.length % 4) % 4 := by omega
    rw [hbs, hfill, hcount, spelled]
  refine ⟨?_, hspelled⟩
  match ns, hns with
  | [], _ => exact .nil
  | [a], _ => exact absurd rfl hone
  | [a, b], _ => exact .two hlast
  | [a, b, c], _ => exact .three hlast
  | [a, b, c, d], _ => exact .group .nil
  | a :: b :: c :: d :: e :: ns, _ =>
    simp only [List.length_cons] at hsum
    omega

theorem groups_of_short (offset : Nat) (hlen : bs.length ≤ 4) :
    groups offset bs = lastGroup offset bs := by
  match bs, hlen with
  | [], _ | [_], _ | [_, _], _ | [_, _, _], _ | [_, _, _, _], _ => rfl
  | _ :: _ :: _ :: _ :: _ :: bs, hlen =>
    simp only [List.length_cons] at hlen
    omega

theorem of_groups_eq_ok (h : groups offset bs = .ok ns) :
    (∀ n ∈ ns, n < 64) ∧ Whole ns ∧ bs = spelled ns := by
  induction offset, bs using groups.induct generalizing ns with
  | case1 offset x y z w v rest ih =>
    rw [groups] at h
    cases hfour : values offset [x, y, z, w] with
    | error f =>
      rw [hfour] at h
      cases h
    | ok four =>
      cases hmore : groups (offset + 4) (v :: rest) with
      | error f =>
        rw [hfour, hmore] at h
        cases h
      | ok more =>
        rw [hfour, hmore] at h
        cases h
        obtain ⟨hlow, hsymbols⟩ := of_values_eq_ok hfour
        obtain ⟨hmorelow, hwhole, hspelled⟩ := ih hmore
        match four, hsymbols with
        | [a, b, c, d], hsymbols =>
          cases hsymbols
          refine ⟨List.forall_mem_append.mpr ⟨hlow, hmorelow⟩, .group hwhole, ?_⟩
          rw [hspelled]
          exact (spelled_group a b c d more).symm
  | case2 offset bs hbs =>
    have hlen : bs.length ≤ 4 := by
      match bs, hbs with
      | [], _ | [_], _ | [_, _], _ | [_, _, _], _ | [_, _, _, _], _ => simp
      | _ :: _ :: _ :: _ :: _ :: _, hbs => exact absurd rfl (hbs _ _ _ _ _ _)
    rw [groups_of_short offset hlen] at h
    exact of_lastGroup_eq_ok h hlen

theorem groups_spelled (hns : ∀ n ∈ ns, n < 64) (h : Whole ns) (offset : Nat) :
    groups offset (spelled ns) = .ok ns := by
  induction h generalizing offset with
  | nil => rfl
  | two h | three h =>
    rw [groups_of_short offset (by simp [spelled])]
    exact lastGroup_spelled hns (by constructor; exact h) (by simp) offset
  | @group a b c d ns h ih =>
    have hrest := ih (fun n hn ↦ hns n (by simp [hn])) (offset + 4)
    have hlow : ∀ n ∈ [a, b, c, d], n < 64 := fun n hn ↦ hns n (List.mem_append_left ns hn)
    have hfour : values offset [symbol a, symbol b, symbol c, symbol d] = .ok [a, b, c, d] :=
      values_symbols hlow offset
    cases hs : spelled ns with
    | nil =>
      have hnil : ns = [] := by
        rw [spelled, List.append_eq_nil_iff, List.map_eq_nil_iff] at hs
        exact hs.1
      subst hnil
      rw [groups_of_short offset (by simp [spelled])]
      exact lastGroup_spelled hns (.group .nil) (by simp) offset
    | cons v rest =>
      rw [spelled_group, hs, groups, hfour, ← hs, hrest]
      rfl

theorem strayEnd?_spelled (ns : List Nat) : strayEnd? (spelled ns) = none := by
  have hone : ¬ (spelled ns).length % 4 = 1 := by simp [length_spelled]
  unfold strayEnd?
  split
  · rw [if_neg (by simp [hone])]
  · rfl

theorem decode_eq_ok_iff {bytes : List UInt8} : decode bs = .ok bytes ↔ bs = encode bytes := by
  unfold decode
  constructor
  · intro h
    split at h
    · cases h
    · cases hgroups : groups 0 bs with
      | error f =>
        rw [hgroups] at h
        cases h
      | ok ns =>
        rw [hgroups] at h
        cases h
        obtain ⟨hns, hwhole, rfl⟩ := of_groups_eq_ok hgroups
        exact (encode_ofValues hns hwhole).symm
  · rintro rfl
    obtain ⟨ns, hns, hwhole, rfl⟩ := exists_values bytes
    rw [encode_ofValues hns hwhole, strayEnd?_spelled, groups_spelled hns hwhole]
    rfl

end Groups

end Telemetry.Base64

namespace Telemetry.Credentials

def written (bytes : List UInt8) : String :=
  String.ofList ((Base64.encode bytes).map fun b ↦ Char.ofNat b.toNat)

/-- The second text is the first one with white space put in anywhere. -/
inductive Interspersed : List Char → List Char → Prop
  | nil : Interspersed [] []
  | blank {c : Char} {cs ds : List Char} (hc : Text.isBlank c = true) (h : Interspersed cs ds) :
      Interspersed cs (c :: ds)
  | keep {c : Char} {cs ds : List Char} (h : Interspersed cs ds) : Interspersed (c :: cs) (c :: ds)

variable {bytes : List UInt8}

theorem bounds_of_mem_encode {b : UInt8} (h : b ∈ Base64.encode bytes) :
    43 ≤ b.toNat ∧ b.toNat < 128 := by
  obtain ⟨ns, hns, hwhole, rfl⟩ := Base64.exists_values bytes
  rw [Base64.encode_ofValues hns hwhole, Base64.spelled, List.mem_append, List.mem_map] at h
  rcases h with ⟨n, hn, rfl⟩ | h
  · have hall : ∀ n < 64, 43 ≤ (Base64.symbol n).toNat ∧ (Base64.symbol n).toNat < 128 := by decide
    exact hall n (hns n hn)
  · rw [List.eq_of_mem_replicate h]
    decide

theorem toNat_ofNat_of_ascii {n : Nat} (h : n < 128) : (Char.ofNat n).toNat = n := by
  have hvalid : n.isValidChar := .inl (by omega)
  rw [Char.toNat_ofNat, if_pos hvalid]

theorem encodeChars_of_ascii {bs : List UInt8} (h : ∀ b ∈ bs, b.toNat < 128) :
    Utf8.encodeChars (bs.map fun b ↦ Char.ofNat b.toNat) = bs := by
  induction bs with
  | nil => rfl
  | cons b bs ih =>
    obtain ⟨hb, hbs⟩ := List.forall_mem_cons.mp h
    have hchar : String.utf8EncodeChar (Char.ofNat b.toNat) = [b] := by
      unfold String.utf8EncodeChar
      simp only [Char.toNat_val, toNat_ofNat_of_ascii hb]
      rw [if_pos (by omega), UInt8.ofNat_toNat]
    rw [Utf8.encodeChars, List.map_cons, List.flatMap_cons, hchar]
    exact congrArg (b :: ·) (ih hbs)

theorem encode_written (bytes : List UInt8) :
    Utf8.encode (written bytes) = Base64.encode bytes := by
  rw [Utf8.encode, written, String.toList_ofList]
  exact encodeChars_of_ascii fun b hb ↦ (bounds_of_mem_encode hb).2

theorem isSolid_written (bytes : List UInt8) : Text.IsSolid (written bytes).toList := by
  intro c hc
  rw [written, String.toList_ofList, List.mem_map] at hc
  obtain ⟨b, hb, rfl⟩ := hc
  obtain ⟨hlow, hhigh⟩ := bounds_of_mem_encode hb
  simp only [Text.isBlank, toNat_ofNat_of_ascii hhigh]
  grind

theorem withoutBlanks_written (bytes : List UInt8) :
    Text.withoutBlanks (written bytes) = written bytes := by
  have hkept : (written bytes).toList.filter (fun c ↦ !Text.isBlank c) =
      (written bytes).toList := by
    rw [List.filter_eq_self]
    intro c hc
    rw [isSolid_written bytes c hc]
    rfl
  rw [Text.withoutBlanks, hkept, String.ofList_toList]

theorem decode_eq_ok_iff {a : Artifact} {v : String} :
    decode a v = .ok bytes ↔ Text.withoutBlanks v = written bytes := by
  have hdecode : decode a v = .ok bytes ↔
      Base64.decode (Utf8.encode (Text.withoutBlanks v)) = .ok bytes := by
    unfold decode
    cases Base64.decode (Utf8.encode (Text.withoutBlanks v)) <;> simp [Except.mapError]
  rw [hdecode, Base64.decode_eq_ok_iff, ← encode_written, Utf8.encode_injective.eq_iff]

theorem Interspersed.filter_eq {cs ds : List Char} (h : Interspersed cs ds) :
    ds.filter (fun c ↦ !Text.isBlank c) = cs.filter fun c ↦ !Text.isBlank c := by
  induction h with
  | nil => rfl
  | blank hc _ ih => rw [List.filter_cons_of_neg (by simp [hc]), ih]
  | keep _ ih => rw [List.filter_cons, List.filter_cons, ih]

/-- An artifact decodes just when its text is the written form of some bytes but for white space,
and to those bytes; nothing else can be wrong with it than that it does not decode. So the written
form of bytes decodes to them with white space put in anywhere, and texts that decode to the same
bytes differ in white space only. -/
theorem decode_canonical (a : Artifact) (v : String) :
    (∀ bytes, decode a v = .ok bytes ↔ Text.withoutBlanks v = written bytes) ∧
    ((∀ bytes, Text.withoutBlanks v ≠ written bytes) ↔
      ∃ cause, decode a v = .error (.undecodable a cause)) ∧
    (∀ bytes, Interspersed (written bytes).toList v.toList → decode a v = .ok bytes) ∧
    ∀ (a' : Artifact) (v' : String) (bytes : List UInt8), decode a v = .ok bytes →
      decode a' v' = .ok bytes → Text.withoutBlanks v = Text.withoutBlanks v' := by
  refine ⟨fun bytes ↦ decode_eq_ok_iff, ⟨?_, ?_⟩, ?_, ?_⟩
  · intro h
    cases hdecode : Base64.decode (Utf8.encode (Text.withoutBlanks v)) with
    | ok bytes =>
      have hok : decode a v = .ok bytes := by rw [decode, hdecode]; rfl
      exact absurd (decode_eq_ok_iff.mp hok) (h bytes)
    | error cause => exact ⟨cause, by rw [decode, hdecode]; rfl⟩
  · rintro ⟨cause, h⟩ bytes hv
    rw [← decode_eq_ok_iff (a := a), h] at hv
    cases hv
  · intro bytes h
    rw [decode_eq_ok_iff, Text.withoutBlanks, h.filter_eq]
    exact withoutBlanks_written bytes
  · intro a' v' bytes h h'
    rw [decode_eq_ok_iff] at h h'
    rw [h, h']

/-- Line ends, blanks and other white space within a text of two groups. -/
example : decode .ca " Zm9v\r\n\tYm\u2003E=" = .ok (Utf8.encode "fooba") := by decide +kernel

end Telemetry.Credentials
