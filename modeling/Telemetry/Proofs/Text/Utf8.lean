import Mathlib
import Telemetry.Text.Utf8

namespace Telemetry.Utf8

def tail (n : Nat) : UInt8 := UInt8.ofNat (n % 64 + 0x80)

/-- A lead byte and a second byte within its bounds, after which `more` bytes are missing. -/
def Leads (b second : UInt8) (more : Nat) : Prop :=
  ∃ l, lead? b = some l ∧ l.least ≤ second ∧ second ≤ l.most ∧ l.more = more + 1

theorem toNat_tail (n : Nat) : (tail n).toNat = n % 64 + 0x80 := by
  rw [tail, UInt8.toNat_ofNat']
  omega

theorem lead?_eq (b : UInt8) : lead? b =
    if 0xC2 ≤ b.toNat ∧ b.toNat ≤ 0xDF then some ⟨0x80, 0xBF, 1⟩
    else if b.toNat = 0xE0 then some ⟨0xA0, 0xBF, 2⟩
    else if b.toNat = 0xED then some ⟨0x80, 0x9F, 2⟩
    else if 0xE1 ≤ b.toNat ∧ b.toNat ≤ 0xEF then some ⟨0x80, 0xBF, 2⟩
    else if b.toNat = 0xF0 then some ⟨0x90, 0xBF, 3⟩
    else if 0xF1 ≤ b.toNat ∧ b.toNat ≤ 0xF3 then some ⟨0x80, 0xBF, 3⟩
    else if b.toNat = 0xF4 then some ⟨0x80, 0x8F, 3⟩
    else none := by
  simp [lead?, UInt8.le_iff_toNat_le, ← UInt8.toNat_inj]

theorem continuation_tails (rest : List UInt8) (ns : List Nat) :
    continuation 0x80 0xBF ns.length (ns.map tail ++ rest) = ns.map tail := by
  induction ns with
  | nil => rfl
  | cons n ns ih =>
    have hin : 0x80 ≤ tail n ∧ tail n ≤ 0xBF := by
      simp only [UInt8.le_iff_toNat_le, toNat_tail, UInt8.reduceToNat]
      omega
    simp [continuation, hin, ih]

section Head

variable {n : Nat}

theorem head_ascii (h : n < 0x80) (rest : List UInt8) :
    head (UInt8.ofNat n) rest = (some (Char.ofNat n), 0) := by
  have hn : (UInt8.ofNat n).toNat = n := by
    rw [UInt8.toNat_ofNat']
    omega
  have hlt : UInt8.ofNat n < 0x80 := by
    rwa [UInt8.lt_iff_toNat_lt, hn]
  rw [head, if_pos hlt, hn]

theorem Leads.le_toNat {b second : UInt8} {more : Nat} (h : Leads b second more) :
    0xC2 ≤ b.toNat := by
  obtain ⟨l, hl, -⟩ := h
  rw [lead?_eq] at hl
  by_contra hlt
  repeat rw [if_neg (by omega)] at hl
  cases hl

theorem head_of_leads {b second : UInt8} (ns : List Nat) (h : Leads b second ns.length)
    (hn : (second :: ns.map tail).foldl (fun n c ↦ 64 * n + c.toNat % 64)
      (b.toNat % (if ns.length = 0 then 32 else if ns.length = 1 then 16 else 8)) = n)
    (rest : List UInt8) :
    head b (second :: (ns.map tail ++ rest)) = (some (Char.ofNat n), ns.length + 1) := by
  have hb : ¬ b < 0x80 := by
    have hle : 0xC2 ≤ b.toNat := h.le_toNat
    have hge : (0x80 : UInt8).toNat ≤ b.toNat := Nat.le_trans (by decide) hle
    rwa [UInt8.lt_iff_toNat_lt, Nat.not_lt]
  obtain ⟨⟨least, most, more⟩, hl, hleast, hmost, rfl⟩ := h
  have hcont : continuation least most (ns.length + 1) (second :: (ns.map tail ++ rest)) =
      second :: ns.map tail := by
    simp only [continuation, continuation_tails]
    rw [if_pos (by simpa using ⟨hleast, hmost⟩)]
  subst hn
  simp [head, hb, hl, hcont]

theorem leads_of_bounds {b : UInt8} {l : Lead} {more : Nat} (hl : lead? b = some l)
    (hleast : l.least.toNat ≤ n % 64 + 0x80) (hmost : n % 64 + 0x80 ≤ l.most.toNat)
    (hmore : l.more = more + 1) : Leads b (tail n) more :=
  ⟨l, hl, by rwa [UInt8.le_iff_toNat_le, toNat_tail], by rwa [UInt8.le_iff_toNat_le, toNat_tail],
    hmore⟩

theorem leads_two (hlow : 0x80 ≤ n) (hhigh : n < 0x800) :
    Leads (UInt8.ofNat (n / 64 % 32 + 0xC0)) (tail n) 0 := by
  have hb : (UInt8.ofNat (n / 64 % 32 + 0xC0)).toNat = n / 64 + 0xC0 := by
    rw [UInt8.toNat_ofNat']
    omega
  refine leads_of_bounds (l := ⟨0x80, 0xBF, 1⟩) ?_ ?_ ?_ rfl
  · rw [lead?_eq, hb, if_pos (by omega)]
  · change 0x80 ≤ _
    omega
  · change _ ≤ 0xBF
    omega

theorem leads_three (hlow : 0x800 ≤ n) (hhigh : n < 0xD800 ∨ 0xDFFF < n ∧ n < 0x10000) :
    Leads (UInt8.ofNat (n / 4096 % 16 + 0xE0)) (tail (n / 64)) 1 := by
  have hb : (UInt8.ofNat (n / 4096 % 16 + 0xE0)).toNat = n / 4096 + 0xE0 := by
    rw [UInt8.toNat_ofNat']
    omega
  -- The second byte keeps clear of overlong forms at one end and of surrogates at the other.
  have hl : lead? (UInt8.ofNat (n / 4096 % 16 + 0xE0)) =
      some ⟨if n < 0x1000 then 0xA0 else 0x80, if n / 4096 = 13 then 0x9F else 0xBF, 2⟩ := by
    rw [lead?_eq, hb]
    grind
  refine leads_of_bounds hl ?_ ?_ rfl <;> dsimp only <;> split
  · change 0xA0 ≤ _
    omega
  · change 0x80 ≤ _
    omega
  · change _ ≤ 0x9F
    omega
  · change _ ≤ 0xBF
    omega

theorem leads_four (hlow : 0x10000 ≤ n) (hhigh : n < 0x110000) :
    Leads (UInt8.ofNat (n / 262144 % 8 + 0xF0)) (tail (n / 4096)) 2 := by
  have hb : (UInt8.ofNat (n / 262144 % 8 + 0xF0)).toNat = n / 262144 + 0xF0 := by
    rw [UInt8.toNat_ofNat']
    omega
  -- Here it keeps clear of overlong forms and of what is beyond the last code point.
  have hl : lead? (UInt8.ofNat (n / 262144 % 8 + 0xF0)) =
      some ⟨if n < 0x40000 then 0x90 else 0x80, if n / 262144 = 4 then 0x8F else 0xBF, 3⟩ := by
    rw [lead?_eq, hb]
    grind
  refine leads_of_bounds hl ?_ ?_ rfl <;> dsimp only <;> split
  · change 0x90 ≤ _
    omega
  · change 0x80 ≤ _
    omega
  · change _ ≤ 0x8F
    omega
  · change _ ≤ 0xBF
    omega

theorem head_two (hlow : 0x80 ≤ n) (hhigh : n < 0x800) (rest : List UInt8) :
    head (UInt8.ofNat (n / 64 % 32 + 0xC0)) (tail n :: rest) = (some (Char.ofNat n), 1) := by
  refine head_of_leads [] (leads_two hlow hhigh) ?_ rest
  simp [toNat_tail]
  omega

theorem head_three (hlow : 0x800 ≤ n) (hhigh : n < 0xD800 ∨ 0xDFFF < n ∧ n < 0x10000)
    (rest : List UInt8) :
    head (UInt8.ofNat (n / 4096 % 16 + 0xE0)) (tail (n / 64) :: tail n :: rest) =
      (some (Char.ofNat n), 2) := by
  refine head_of_leads [n] (leads_three hlow hhigh) ?_ rest
  simp [toNat_tail]
  omega

theorem head_four (hlow : 0x10000 ≤ n) (hhigh : n < 0x110000) (rest : List UInt8) :
    head (UInt8.ofNat (n / 262144 % 8 + 0xF0))
      (tail (n / 4096) :: tail (n / 64) :: tail n :: rest) = (some (Char.ofNat n), 3) := by
  refine head_of_leads [n / 64, n] (leads_four hlow hhigh) ?_ rest
  simp [toNat_tail]
  omega

end Head

section Text

theorem head_encodeChar (c : Char) (rest : List UInt8) :
    ∃ b bs, String.utf8EncodeChar c = b :: bs ∧ head b (bs ++ rest) = (some c, bs.length) := by
  have hc : Char.ofNat c.toNat = c := Char.ofNat_toNat c
  have hvalid : c.toNat < 0xD800 ∨ 0xDFFF < c.toNat ∧ c.toNat < 0x110000 := c.valid
  unfold String.utf8EncodeChar
  simp only [Char.toNat_val]
  split
  · have hhead := head_ascii (n := c.toNat) (by omega) rest
    rw [hc] at hhead
    exact ⟨_, [], rfl, hhead⟩
  split
  · have hhead := head_two (n := c.toNat) (by omega) (by omega) rest
    rw [hc] at hhead
    exact ⟨_, [_], rfl, hhead⟩
  split
  · have hhead := head_three (n := c.toNat) (by omega) (by omega) rest
    rw [hc] at hhead
    exact ⟨_, [_, _], rfl, hhead⟩
  · have hhead := head_four (n := c.toNat) (by omega) (by omega) rest
    rw [hc] at hhead
    exact ⟨_, [_, _, _], rfl, hhead⟩

theorem chars_encodeChars (cs : List Char) : chars (encodeChars cs) = cs.map some := by
  induction cs with
  | nil => rw [encodeChars, List.flatMap_nil, chars, List.map_nil]
  | cons c cs ih =>
    obtain ⟨b, bs, hbytes, hhead⟩ := head_encodeChar c (encodeChars cs)
    have hcons : encodeChars (c :: cs) = b :: (bs ++ encodeChars cs) := by
      rw [encodeChars, List.flatMap_cons, hbytes]
      rfl
    rw [hcons, chars, hhead, List.drop_left, ih, List.map_cons]

@[simp] theorem decode?_encode (s : String) : decode? (encode s) = some s := by
  have hall (cs : List Char) : (cs.map some).mapM id = some cs := by
    induction cs with
    | nil => rfl
    | cons c cs ih => simp [ih]
  rw [decode?, encode, chars_encodeChars, hall, Option.map_some, String.ofList_toList]

theorem encode_injective : Function.Injective encode := by
  intro s t h
  have hdecode : decode? (encode s) = decode? (encode t) := congrArg decode? h
  simpa using hdecode

end Text

end Telemetry.Utf8
