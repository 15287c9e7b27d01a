import Telemetry.Provider.Cache

namespace Telemetry.ProviderCache

section Entries

variable {α : Type}

theorem entry?_put (c : ProviderCache α) (key other : String) (value : Option α) :
    entry? (c.put key value) other = if key = other then some value else entry? c other :=
  Keyed.get?_put key other value c.entries

def live? (c : ProviderCache α) (key : String) : Option α := Option.join <| entry? c key

@[simp] theorem live?_empty (key : String) : ({} : ProviderCache α).live? key = none := rfl

theorem live?_put (c : ProviderCache α) (key other : String) (value : Option α) :
    (c.put key value).live? other = if key = other then value else c.live? other := by
  simp only [live?, entry?_put]
  split <;> rfl

theorem live?_eq_some_iff {c : ProviderCache α} {key : String} {p : α} :
    c.live? key = some p ↔ entry? c key = some (some p) := Option.join_eq_some_iff

theorem hit?_of_live {c : ProviderCache α} {r : Request} {p : α}
    (h : entry? c r.key = some (some p)) : c.hit? r = some ⟨some p, .cached⟩ := by
  simp only [hit?, h]

theorem origin_of_hit? {c : ProviderCache α} {r : Request} {a : Resolved α}
    (h : c.hit? r = some a) : a.origin = .cached := by
  simp only [hit?] at h
  split at h
  · cases h
  · cases h; rfl
  · split at h
    · cases h
    · cases h; rfl

end Entries

inductive Lookup (ε α : Type) where
  | building (r : Request)
  | built (r : Request) (candidate : Option α)
  | discarding (answer : Resolved α) (candidate : α)
  | finished (result : Except ε (Resolved α))

/-- What has happened. Lookups are known by their number. -/
inductive Note (ε α : Type) where
  | looked (i : Nat) (r : Request)
  | made (i : Nat) (result : Except ε (Option α))
  | inserted (i : Nat) (key : String) (p : α)
  | closed (i : Nat) (p : α)
  | cleared
  | peeked (key : String) (entry : Option (Option α))

namespace Note

variable {ε α : Type}

def caller? : Note ε α → Option Nat
  | looked i _ | made i _ | inserted i _ _ | closed i _ => some i
  | cleared | peeked .. => none

def product? : Note ε α → Option α
  | made _ (.ok candidate) => candidate
  | _ => none

end Note

/-- A cache, the lookups that have been made of it, and what has happened, latest first. -/
structure Traffic (ε α : Type) where
  cache : ProviderCache α := {}
  lookups : List (Lookup ε α) := []
  log : List (Note ε α) := []

variable {ε α : Type}

def arrival? [DecidableEq α] (before after : ProviderCache α) (key : String) :
    Option α :=
  if entry? after key = entry? before key then none else live? after key

namespace Traffic

def begin (t : Traffic ε α) (r : Request) (l : Lookup ε α) : Traffic ε α :=
  { t with lookups := t.lookups ++ [l], log := .looked t.lookups.length r :: t.log }

def goOn (t : Traffic ε α) (i : Nat) (l : Lookup ε α) (note : Note ε α) : Traffic ε α :=
  { t with lookups := t.lookups.set i l, log := note :: t.log }

def settle [DecidableEq α] (t : Traffic ε α) (i : Nat) (r : Request) (candidate : Option α) :
    Traffic ε α :=
  let s := t.cache.settle r candidate
  { cache := s.cache
    lookups := t.lookups.set i <| match s.discarded with
      | some p => .discarding s.resolved p
      | none => .finished (.ok s.resolved)
    log := (arrival? t.cache s.cache r.key).toList.map (.inserted i r.key) ++ t.log }

inductive Step [DecidableEq α] : Traffic ε α → Traffic ε α → Prop
  | hit {t : Traffic ε α} {r : Request} {a : Resolved α} (h : t.cache.hit? r = some a) :
      Step t (t.begin r (.finished (.ok a)))
  | miss {t : Traffic ε α} {r : Request} (h : t.cache.hit? r = none) :
      Step t (t.begin r (.building r))
  | fail {t : Traffic ε α} {i : Nat} {r : Request} (e : ε)
      (h : t.lookups[i]? = some (.building r)) :
      Step t (t.goOn i (.finished (.error e)) (.made i (.error e)))
  | build {t : Traffic ε α} {i : Nat} {r : Request} (candidate : Option α)
      (h : t.lookups[i]? = some (.building r))
      (fresh : ∀ p ∈ candidate, ∀ n ∈ t.log, n.product? ≠ some p) :
      Step t (t.goOn i (.built r candidate) (.made i (.ok candidate)))
  | settle {t : Traffic ε α} {i : Nat} {r : Request} {candidate : Option α}
      (h : t.lookups[i]? = some (.built r candidate)) : Step t (t.settle i r candidate)
  | discard {t : Traffic ε α} {i : Nat} {a : Resolved α} {p : α}
      (h : t.lookups[i]? = some (.discarding a p)) :
      Step t (t.goOn i (.finished (.ok a)) (.closed i p))
  | clear {t : Traffic ε α} : Step t { t with cache := t.cache.clear, log := .cleared :: t.log }
  | peek {t : Traffic ε α} {key : String} {found : Option (Option α)}
      (h : entry? t.cache key = found) : Step t { t with log := .peeked key found :: t.log }

inductive Reached [DecidableEq α] : Traffic ε α → Prop
  | start : Reached {}
  | step {t t' : Traffic ε α} : Reached t → Step t t' → Reached t'

variable {t t' : Traffic ε α}

theorem settle_cases [DecidableEq α] (t : Traffic ε α) (i : Nat) (r : Request)
    (candidate : Option α) :
    (∃ p, candidate = some p ∧ live? t.cache r.key = none ∧
      t.settle i r candidate = ⟨t.cache.put r.key (some p),
        t.lookups.set i (.finished (.ok ⟨some p, .created⟩)), .inserted i r.key p :: t.log⟩) ∨
    (candidate = none ∧ entry? t.cache r.key = none ∧
      t.settle i r candidate = ⟨t.cache.put r.key none,
        t.lookups.set i (.finished (.ok ⟨none, .created⟩)), t.log⟩) ∨
    (∃ existing p, candidate = some p ∧ t.settle i r candidate =
      ⟨t.cache, t.lookups.set i (.discarding ⟨existing, .raced⟩ p), t.log⟩) ∨
    (∃ existing, candidate = none ∧ t.settle i r candidate =
      ⟨t.cache, t.lookups.set i (.finished (.ok ⟨existing, .raced⟩)), t.log⟩) := by
  cases he : entry? t.cache r.key with
  | none =>
    cases candidate with
    | none =>
      refine .inr (.inl ⟨rfl, rfl, ?_⟩)
      simp [settle, ProviderCache.settle, arrival?, live?, he, entry?_put]
    | some p =>
      refine .inl ⟨p, rfl, by rw [live?, he]; rfl, ?_⟩
      simp [settle, ProviderCache.settle, arrival?, live?, he, entry?_put]
  | some existing =>
    cases candidate with
    | none =>
      refine .inr (.inr (.inr ⟨existing, rfl, ?_⟩))
      simp [settle, ProviderCache.settle, arrival?, he]
    | some p =>
      cases hr : r.enables && existing.isNone
      · refine .inr (.inr (.inl ⟨existing, p, rfl, ?_⟩))
        simp [settle, ProviderCache.settle, arrival?, he, hr]
      · obtain ⟨enables, rfl⟩ : r.enables = true ∧ existing = none := by simpa using hr
        refine .inl ⟨p, rfl, by rw [live?, he]; rfl, ?_⟩
        simp [settle, ProviderCache.settle, arrival?, live?, he, enables, entry?_put]

def trail (i : Nat) (log : List (Note ε α)) : List (Note ε α) :=
  log.filter fun n ↦ n.caller? == some i

def standing (key : String) : List (Note ε α) → Option α
  | [] => none
  | .cleared :: _ => none
  | .inserted _ k p :: log => if k = key then some p else standing key log
  | _ :: log => standing key log

def closers [DecidableEq α] (p : α) (log : List (Note ε α)) : List Nat :=
  log.filterMap fun
    | .closed i q => if q = p then some i else none
    | _ => none

/-- The trail that a lookup leaves up to each of its states. -/
inductive Traced (i : Nat) : Lookup ε α → List (Note ε α) → Prop
  | building (r : Request) : Traced i (.building r) [.looked i r]
  | built (r : Request) (c : Option α) : Traced i (.built r c) [.made i (.ok c), .looked i r]
  | discarding (r : Request) (existing : Option α) (p : α) :
      Traced i (.discarding ⟨existing, .raced⟩ p) [.made i (.ok (some p)), .looked i r]
  | failed (r : Request) (e : ε) :
      Traced i (.finished (.error e)) [.made i (.error e), .looked i r]
  | cached (r : Request) (existing : Option α) :
      Traced i (.finished (.ok ⟨existing, .cached⟩)) [.looked i r]
  | created (r : Request) (p : α) : Traced i (.finished (.ok ⟨some p, .created⟩))
      [.inserted i r.key p, .made i (.ok (some p)), .looked i r]
  | disabled (r : Request) : Traced i (.finished (.ok ⟨none, .created⟩))
      [.made i (.ok none), .looked i r]
  | discarded (r : Request) (existing : Option α) (p : α) :
      Traced i (.finished (.ok ⟨existing, .raced⟩))
        [.closed i p, .made i (.ok (some p)), .looked i r]
  | outrun (r : Request) (existing : Option α) : Traced i (.finished (.ok ⟨existing, .raced⟩))
      [.made i (.ok none), .looked i r]

def Vacant (log : List (Note ε α)) : Prop :=
  ∀ newer i key p older, log = newer ++ .inserted i key p :: older → standing key older = none

/-- What is true after every step. -/
structure Sound (t : Traffic ε α) : Prop where
  traced : ∀ i l, t.lookups[i]? = some l → Traced i l (trail i t.log)
  untraced : ∀ i, t.lookups.length ≤ i → trail i t.log = []
  standing : ∀ key, standing key t.log = live? t.cache key
  vacant : Vacant t.log
  distinct : (t.log.filterMap (·.product?)).Nodup
  answered : ∀ newer i r p older, t.log = newer ++ .looked i r :: older →
    Traffic.standing r.key older = some p → t.lookups[i]? = some (.finished (.ok ⟨some p, .cached⟩))

theorem trail_cons_self {i : Nat} {n : Note ε α} (h : n.caller? = some i) (log : List (Note ε α)) :
    trail i (n :: log) = n :: trail i log := by
  simp [trail, h]

theorem trail_cons_other {i : Nat} {n : Note ε α} (h : n.caller? ≠ some i)
    (log : List (Note ε α)) : trail i (n :: log) = trail i log := by
  simp [trail, h]

theorem mem_trail {i : Nat} {n : Note ε α} {log : List (Note ε α)} (h : n.caller? = some i) :
    n ∈ trail i log ↔ n ∈ log := by
  simp [trail, h]

theorem Sound.start : Sound ({} : Traffic ε α) where
  traced i l h := by simp at h
  untraced i _ := rfl
  standing key := by simp [Traffic.standing]
  vacant newer i key p older h := by simp at h
  distinct := List.nodup_nil
  answered newer i r p older h := by simp at h

theorem Sound.begin (h : Sound t) (r : Request) {l : Lookup ε α}
    (hl : Traced t.lookups.length l [.looked t.lookups.length r])
    (ha : ∀ p, entry? t.cache r.key = some (some p) → l = .finished (.ok ⟨some p, .cached⟩)) :
    Sound (t.begin r l) where
  traced i l' hi := by
    simp only [Traffic.begin] at hi ⊢
    rcases Nat.lt_trichotomy i t.lookups.length with hlt | rfl | hgt
    · rw [List.getElem?_append_left hlt] at hi
      rw [trail_cons_other (by simp [Note.caller?]; omega)]
      exact h.traced i l' hi
    · obtain rfl : l = l' := by simpa using hi
      rw [trail_cons_self rfl, h.untraced _ (Nat.le_refl _)]
      exact hl
    · rw [List.getElem?_eq_none (by simp; omega)] at hi
      cases hi
  untraced i hi := by
    simp only [Traffic.begin, List.length_append, List.length_singleton] at hi ⊢
    rw [trail_cons_other (by simp [Note.caller?]; omega)]
    exact h.untraced i (by omega)
  standing key := h.standing key
  vacant newer i key p older he := by
    obtain ⟨_, hn⟩ | ⟨newer, rfl, hp⟩ := List.cons_eq_append_iff.mp he
    · cases hn
    · exact h.vacant newer i key p older hp
  distinct := h.distinct
  answered newer i r' p older he hp := by
    obtain ⟨rfl, hn⟩ | ⟨newer, rfl, hl⟩ := List.cons_eq_append_iff.mp he
    · cases hn
      rw [h.standing, live?_eq_some_iff] at hp
      simp [Traffic.begin, ha p hp]
    · have hi := h.answered newer i r' p older hl hp
      simp only [Traffic.begin]
      rw [List.getElem?_append_left (List.getElem?_eq_some_iff.mp hi).1]
      exact hi

theorem Sound.move (h : Sound t) {i : Nat} {l l' : Lookup ε α} {cache : ProviderCache α}
    (hi : t.lookups[i]? = some l) (open_ : ∀ result, l ≠ .finished result)
    (htr : ∀ past, Traced i l past → Traced i l' past)
    (hs : ∀ key, live? cache key = live? t.cache key) :
    Sound ⟨cache, t.lookups.set i l', t.log⟩ where
  traced j k hj := by
    by_cases hij : i = j
    · subst hij
      rw [List.getElem?_set_self (List.getElem?_eq_some_iff.mp hi).1] at hj
      cases hj
      exact htr _ (h.traced i l hi)
    · rw [List.getElem?_set_ne hij] at hj
      exact h.traced j k hj
  untraced j hj := h.untraced j (by simpa using hj)
  standing key := (h.standing key).trans (hs key).symm
  vacant := h.vacant
  distinct := h.distinct
  answered newer j r p older he hp := by
    have hj := h.answered newer j r p older he hp
    by_cases hij : i = j
    · subst hij
      rw [hi, Option.some_inj] at hj
      exact absurd hj (open_ _)
    · rw [List.getElem?_set_ne hij]
      exact hj

theorem Sound.advance (h : Sound t) {i : Nat} {l l' : Lookup ε α} {n : Note ε α}
    {cache : ProviderCache α} (hi : t.lookups[i]? = some l) (open_ : ∀ result, l ≠ .finished result)
    (hc : n.caller? = some i) (hn : ∀ r, n ≠ .looked i r)
    (htr : ∀ past, Traced i l past → Traced i l' (n :: past))
    (hs : ∀ key, Traffic.standing key (n :: t.log) = live? cache key)
    (hv : ∀ key p, n = .inserted i key p → Traffic.standing key t.log = none)
    (hd : ((n :: t.log).filterMap (·.product?)).Nodup) :
    Sound ⟨cache, t.lookups.set i l', n :: t.log⟩ where
  traced j k hj := by
    by_cases hij : i = j
    · subst hij
      rw [List.getElem?_set_self (List.getElem?_eq_some_iff.mp hi).1] at hj
      cases hj
      rw [trail_cons_self hc]
      exact htr _ (h.traced i l hi)
    · rw [List.getElem?_set_ne hij] at hj
      rw [trail_cons_other (by simpa [hc] using hij)]
      exact h.traced j k hj
  untraced j hj := by
    have hlt := (List.getElem?_eq_some_iff.mp hi).1
    simp only [List.length_set] at hj
    rw [trail_cons_other (by simp [hc]; omega)]
    exact h.untraced j hj
  standing := hs
  vacant newer j key p older he := by
    obtain ⟨_, hx⟩ | ⟨newer, rfl, hx⟩ := List.cons_eq_append_iff.mp he
    · cases hx
      obtain rfl : j = i := by simpa [Note.caller?] using hc
      exact hv key p rfl
    · exact h.vacant newer j key p older hx
  distinct := hd
  answered newer j r p older he hp := by
    obtain ⟨_, hx⟩ | ⟨newer, rfl, hx⟩ := List.cons_eq_append_iff.mp he
    · cases hx
      obtain rfl : j = i := by simpa [Note.caller?] using hc
      exact absurd rfl (hn r)
    · have hj := h.answered newer j r p older hx hp
      by_cases hij : i = j
      · subst hij
        rw [hi, Option.some_inj] at hj
        exact absurd hj (open_ _)
      · rw [List.getElem?_set_ne hij]
        exact hj

theorem Sound.remark (h : Sound t) {n : Note ε α} {cache : ProviderCache α} (hc : n.caller? = none)
    (hs : ∀ key, Traffic.standing key (n :: t.log) = live? cache key)
    (hd : n.product? = none) : Sound ⟨cache, t.lookups, n :: t.log⟩ where
  traced i l hl := by
    rw [trail_cons_other (by simp [hc])]
    exact h.traced i l hl
  untraced i hi := by
    rw [trail_cons_other (by simp [hc])]
    exact h.untraced i hi
  standing := hs
  vacant newer i key p older he := by
    obtain ⟨_, hx⟩ | ⟨newer, rfl, hx⟩ := List.cons_eq_append_iff.mp he
    · cases hx
      cases hc
    · exact h.vacant newer i key p older hx
  distinct := by simpa [hd] using h.distinct
  answered newer i r p older he hp := by
    obtain ⟨_, hx⟩ | ⟨newer, rfl, hx⟩ := List.cons_eq_append_iff.mp he
    · cases hx
      cases hc
    · exact h.answered newer i r p older hx hp

theorem Traced.made_of_inserted {i : Nat} {l : Lookup ε α} {past : List (Note ε α)} {key : String}
    {p : α} (h : Traced i l past) (hp : .inserted i key p ∈ past) :
    .made i (.ok (some p)) ∈ past := by
  cases h <;> simp_all

theorem Sound.traced_of_mem (h : Sound t) {i : Nat} {n : Note ε α} (hn : n ∈ t.log)
    (hc : n.caller? = some i) :
    ∃ l, t.lookups[i]? = some l ∧ Traced i l (trail i t.log) ∧ n ∈ trail i t.log := by
  have hm := (mem_trail hc).mpr hn
  by_cases hi : i < t.lookups.length
  · exact ⟨_, List.getElem?_eq_getElem hi, h.traced i _ (List.getElem?_eq_getElem hi), hm⟩
  · rw [h.untraced i (by omega)] at hm
    cases hm

theorem Sound.maker_unique (h : Sound t) {i j : Nat} {p : α} (hi : .made i (.ok (some p)) ∈ t.log)
    (hj : .made j (.ok (some p)) ∈ t.log) : i = j := by
  have hd := h.distinct
  generalize t.log = log at hi hj hd
  induction log with
  | nil => cases hi
  | cons n log ih =>
    have made_mem {k : Nat} (hk : .made k (.ok (some p)) ∈ log) : p ∈ log.filterMap (·.product?) :=
      List.mem_filterMap.mpr ⟨_, hk, rfl⟩
    rcases List.mem_cons.mp hi with rfl | hi'
    · rcases List.mem_cons.mp hj with he | hj'
      · cases he
        rfl
      · exact absurd (made_mem hj') (List.nodup_cons.mp hd).1
    · rcases List.mem_cons.mp hj with rfl | hj'
      · exact absurd (made_mem hi') (List.nodup_cons.mp hd).1
      · refine ih hi' hj' (hd.sublist ?_)
        exact (List.sublist_cons_self n log).filterMap _

theorem Sound.made_of_closed (h : Sound t) {i : Nat} {p : α} (hp : .closed i p ∈ t.log) :
    .made i (.ok (some p)) ∈ t.log ∧
      ∃ existing, t.lookups[i]? = some (.finished (.ok ⟨existing, .raced⟩)) := by
  obtain ⟨l, hl, htr, hm⟩ := h.traced_of_mem hp rfl
  have sub (n : Note ε α) (hn : n ∈ trail i t.log) : n ∈ t.log := (List.mem_filter.mp hn).1
  generalize trail i t.log = past at htr hm sub
  cases htr with
  | discarded r existing q =>
    obtain rfl : p = q := by simpa using hm
    exact ⟨sub _ (by simp), existing, hl⟩
  | _ => simp at hm

theorem Vacant.of_append (newer : List (Note ε α)) {log : List (Note ε α)}
    (h : Vacant (newer ++ log)) : Vacant log := by
  intro newer' i key p older he
  exact h (newer ++ newer') i key p older (by rw [he, List.append_assoc])

theorem Vacant.standing {i : Nat} {key : String} {p : α} {newer older : List (Note ε α)}
    (h : Vacant (newer ++ .inserted i key p :: older)) (hc : .cleared ∉ newer) :
    standing key (newer ++ .inserted i key p :: older) = some p := by
  induction newer with
  | nil => simp [Traffic.standing]
  | cons n newer ih =>
    have later := ih (h.of_append [n]) fun hm ↦ hc (List.mem_cons_of_mem n hm)
    cases n with
    | cleared => simp at hc
    | inserted j other q =>
      have hne : other ≠ key := by
        rintro rfl
        have absent : Traffic.standing other (newer ++ .inserted i other p :: older) = none :=
          h [] j other q _ rfl
        rw [absent] at later
        cases later
      simpa [Traffic.standing, hne] using later
    | _ => exact later

theorem Sound.isNew_iff (h : Sound t) {i : Nat} {a : Resolved α}
    (hi : t.lookups[i]? = some (.finished (.ok a))) :
    a.isNew = true ↔ ∃ r p, .looked i r ∈ t.log ∧ .inserted i r.key p ∈ t.log ∧
      a.provider = some p := by
  have htr := h.traced i _ hi
  have inserted_iff (key : String) (p : α) :
      .inserted i key p ∈ trail i t.log ↔ .inserted i key p ∈ t.log := mem_trail rfl
  have looked_iff (r : Request) : .looked i r ∈ trail i t.log ↔ .looked i r ∈ t.log := mem_trail rfl
  simp only [← inserted_iff, ← looked_iff]
  generalize trail i t.log = past at htr
  cases htr <;> simp [Resolved.isNew]

variable [DecidableEq α]

theorem Sound.step (h : Sound t) (hst : Step t t') : Sound t' := by
  cases hst with
  | @hit r a ha =>
    refine h.begin r ?_ fun p hp ↦ ?_
    · obtain ⟨provider, origin⟩ := a
      obtain rfl : origin = .cached := origin_of_hit? ha
      exact .cached r provider
    · rw [hit?_of_live hp, Option.some_inj] at ha
      rw [ha]
  | @miss r hm =>
    refine h.begin r (.building r) fun p hp ↦ ?_
    rw [hit?_of_live hp] at hm
    cases hm
  | @fail i r e hi =>
    refine h.advance hi (by simp) rfl (by simp) (fun past hp ↦ ?_) h.standing (by simp) h.distinct
    cases hp
    exact .failed r e
  | @build i r candidate hi fresh =>
    refine h.advance hi (by simp) rfl (by simp) (fun past hp ↦ ?_) h.standing (by simp) ?_
    · cases hp
      exact .built r candidate
    · cases candidate with
      | none => exact h.distinct
      | some p =>
        refine List.nodup_cons.mpr ⟨fun hp ↦ ?_, h.distinct⟩
        obtain ⟨n, hn, he⟩ := List.mem_filterMap.mp hp
        exact fresh p rfl n hn he
  | @settle i r candidate hi =>
    obtain ⟨p, rfl, he, hset⟩ | ⟨rfl, he, hset⟩ | ⟨existing, p, rfl, hset⟩ | ⟨existing, rfl, hset⟩ :=
      settle_cases t i r candidate <;> rw [hset]
    · refine h.advance hi (by simp) rfl (by simp) (fun past hp ↦ ?_) (fun key ↦ ?_) ?_ h.distinct
      · cases hp
        exact .created r p
      · rw [live?_put, Traffic.standing, h.standing]
      · rintro key q hq
        cases hq
        rw [h.standing, he]
    · refine h.move hi (by simp) (fun past hp ↦ ?_) fun key ↦ ?_
      · cases hp
        exact .disabled r
      · rw [live?_put]
        split
        · subst key
          rw [live?, he]
          rfl
        · rfl
    · refine h.move hi (by simp) (fun past hp ↦ ?_) fun key ↦ rfl
      cases hp
      exact .discarding r existing p
    · refine h.move hi (by simp) (fun past hp ↦ ?_) fun key ↦ rfl
      cases hp
      exact .outrun r existing
  | @discard i a p hi =>
    refine h.advance hi (by simp) rfl (by simp) (fun past hp ↦ ?_) h.standing (by simp) h.distinct
    cases hp with
    | discarding r existing => exact .discarded r existing p
  | clear => exact h.remark rfl (fun key ↦ rfl) rfl
  | peek _ => exact h.remark rfl h.standing rfl

theorem Reached.sound (h : Reached t) : Sound t := by
  induction h with
  | start => exact .start
  | step _ hst ih => exact ih.step hst

theorem closers_cons (p : α) (n : Note ε α) (log : List (Note ε α)) :
    closers p (n :: log) = closers p [n] ++ closers p log :=
  List.filterMap_append (l := [n])

theorem closers_trail {i : Nat} {p : α} {log : List (Note ε α)}
    (h : ∀ j, .closed j p ∈ log → j = i) : closers p (trail i log) = closers p log := by
  induction log with
  | nil => rfl
  | cons n log ih =>
    have ih := ih fun j hj ↦ h j (List.mem_cons_of_mem n hj)
    by_cases hc : n.caller? = some i
    · rw [trail_cons_self hc, closers_cons, ih, ← closers_cons]
    · rw [trail_cons_other hc, ih]
      cases n with
      | closed j q =>
        have hq : q ≠ p := by
          rintro rfl
          exact hc (by simp [Note.caller?, h j (by simp)])
        simp [closers, hq]
      | _ => simp [closers]

theorem Sound.closers_trail (h : Sound t) {i : Nat} {p : α} (hi : .made i (.ok (some p)) ∈ t.log) :
    closers p (trail i t.log) = closers p t.log :=
  Traffic.closers_trail fun _ hj ↦ h.maker_unique (h.made_of_closed hj).1 hi

theorem Sound.candidate (h : Sound t) {i : Nat} {a : Resolved α} {p : α}
    (hi : t.lookups[i]? = some (.finished (.ok a))) (hm : .made i (.ok (some p)) ∈ t.log) :
    (a = ⟨some p, .created⟩ ∧ (∃ r, .looked i r ∈ t.log ∧ .inserted i r.key p ∈ t.log) ∧
      closers p t.log = []) ∨
    (a.origin = .raced ∧ (∀ j key, .inserted j key p ∉ t.log) ∧ closers p t.log = [i]) := by
  have htr := h.traced i _ hi
  have hpast := (mem_trail (i := i) rfl).mpr hm
  have hcl := h.closers_trail hm
  have sub (n : Note ε α) (hn : n ∈ trail i t.log) : n ∈ t.log := (List.mem_filter.mp hn).1
  have mine (j : Nat) (key : String) (hj : .inserted j key p ∈ t.log) :
      .inserted i key p ∈ trail i t.log := by
    obtain ⟨l, _, hl, hin⟩ := h.traced_of_mem hj rfl
    have hmade := (mem_trail rfl).mp (hl.made_of_inserted hin)
    obtain rfl : j = i := h.maker_unique hmade hm
    exact hin
  generalize trail i t.log = past at htr hpast hcl sub mine
  cases htr with
  | cached r existing => simp at hpast
  | disabled r => simp at hpast
  | outrun r existing => simp at hpast
  | created r q =>
    obtain rfl : p = q := by simpa using hpast
    exact .inl ⟨rfl, ⟨r, sub _ (by simp), sub _ (by simp)⟩, by rw [← hcl]; rfl⟩
  | discarded r existing q =>
    obtain rfl : p = q := by simpa using hpast
    refine .inr ⟨rfl, fun j key hj ↦ ?_, by rw [← hcl]; simp [closers]⟩
    simpa using mine j key hj

/-- However lookups run at the same time:
* a candidate is the entry that its lookup inserted and stays open, or it is shut down once, by its
  lookup, and nothing else is ever shut down;
* from one `clear` to the next a key gets at most one live provider, which then stays its entry, and
  the lookup that inserted it is the one to learn that it is new;
* a lookup that begins in that time gets the same provider without running its factory. -/
theorem Reached.one_live_provider (h : Reached t) :
    (∀ i a p, t.lookups[i]? = some (.finished (.ok a)) → .made i (.ok (some p)) ∈ t.log →
      (a = ⟨some p, .created⟩ ∧ (∃ r, .looked i r ∈ t.log ∧ .inserted i r.key p ∈ t.log) ∧
        closers p t.log = []) ∨
      (a.origin = .raced ∧ (∀ j key, .inserted j key p ∉ t.log) ∧ closers p t.log = [i])) ∧
    (∀ i p, .closed i p ∈ t.log → .made i (.ok (some p)) ∈ t.log ∧
      ∃ existing, t.lookups[i]? = some (.finished (.ok ⟨existing, .raced⟩))) ∧
    (∀ newer j key q between i p older, t.log =
      newer ++ .inserted j key q :: (between ++ .inserted i key p :: older) → .cleared ∈ between) ∧
    (∀ newer i key p older, t.log = newer ++ .inserted i key p :: older → .cleared ∉ newer →
      entry? t.cache key = some (some p)) ∧
    (∀ i a, t.lookups[i]? = some (.finished (.ok a)) → (a.isNew = true ↔
      ∃ r p, .looked i r ∈ t.log ∧ .inserted i r.key p ∈ t.log ∧ a.provider = some p)) ∧
    (∀ newer j r between i p older, t.log =
      newer ++ .looked j r :: (between ++ .inserted i r.key p :: older) → .cleared ∉ between →
      t.lookups[j]? = some (.finished (.ok ⟨some p, .cached⟩)) ∧
      ∀ result, .made j result ∉ t.log) := by
  have hs := h.sound
  refine ⟨fun i a p ↦ hs.candidate, fun i p ↦ hs.made_of_closed, ?_, ?_, fun i a ↦ hs.isNew_iff, ?_⟩
  · intro newer j key q between i p older he
    refine Classical.byContradiction fun hc ↦ ?_
    have absent := hs.vacant newer j key q _ he
    have vacant := hs.vacant
    rw [he] at vacant
    rw [(vacant.of_append newer).of_append [_] |>.standing hc] at absent
    cases absent
  · intro newer i key p older he hc
    have vacant := hs.vacant
    rw [he] at vacant
    have live := hs.standing key
    rw [he, vacant.standing hc] at live
    exact live?_eq_some_iff.mp live.symm
  · intro newer j r between i p older he hc
    have vacant := hs.vacant
    rw [he] at vacant
    have live := (vacant.of_append newer).of_append [_] |>.standing hc
    have hj := hs.answered newer j r p _ he live
    refine ⟨hj, fun result hm ↦ ?_⟩
    have htr := hs.traced j _ hj
    have hpast := (mem_trail (i := j) rfl).mpr hm
    generalize trail j t.log = past at htr hpast
    cases htr
    simp at hpast

/-- Two lookups that both find nothing and both have a provider built, and a later one. -/
def contested : Traffic Unit Nat where
  cache := ⟨[("svc", some 0)]⟩
  lookups := [.finished (.ok ⟨some 0, .created⟩), .finished (.ok ⟨some 0, .raced⟩),
    .finished (.ok ⟨some 0, .cached⟩)]
  log := [.looked 2 ⟨"svc", false⟩, .closed 1 1, .inserted 0 "svc" 0, .made 1 (.ok (some 1)),
    .made 0 (.ok (some 0)), .looked 1 ⟨"svc", true⟩, .looked 0 ⟨"svc", false⟩]

theorem reached_contested : Reached contested := by
  have first : Reached (begin ({} : Traffic Unit Nat) ⟨"svc", false⟩ (.building ⟨"svc", false⟩)) :=
    .step .start (.miss rfl)
  have both := first.step (.miss (r := ⟨"svc", true⟩) rfl)
  have built := (both.step (.build (i := 0) (some 0) rfl (by simp [begin, Note.product?]))).step
    (.build (i := 1) (some 1) rfl (by simp [begin, goOn, Note.product?]))
  have settled := (built.step (.settle (i := 0) rfl)).step (.settle (i := 1) rfl)
  have later := (settled.step (.discard (i := 1) rfl)).step
    (.hit (r := ⟨"svc", false⟩) (a := ⟨some 0, .cached⟩) rfl)
  exact later

theorem contested_provider : Reached contested ∧ closers 1 contested.log = [1] ∧
    entry? contested.cache "svc" = some (some 0) := by
  obtain ⟨candidate, _, _, stays, _⟩ := reached_contested.one_live_provider
  refine ⟨reached_contested, ?_, stays [_, _] 0 "svc" 0 _ rfl (by simp)⟩
  obtain ⟨he, _⟩ | ⟨_, _, hcl⟩ := candidate 1 ⟨some 0, .raced⟩ 1 rfl (by simp [contested])
  · cases he
  · exact hcl

end Traffic

end Telemetry.ProviderCache
