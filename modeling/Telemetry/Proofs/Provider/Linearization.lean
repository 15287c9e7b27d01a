import Mathlib
import Telemetry.Registry
import Telemetry.Proofs.Provider.Lookups

namespace Telemetry.ProviderCache

variable {ι ε α : Type}

structure Errand (ε α : Type) where
  request : Request
  product : Except ε (Option α)

def Settled.lookup (s : Settled α) : Lookup ε α :=
  match s.discarded with
  | some p => .discarding s.resolved p
  | none => .finished (.ok s.resolved)

def gist (result : Except ε (Resolved α)) : Except ε (Option α × Bool) :=
  result.map fun a ↦ (a.provider, a.origin == .created)

namespace Errand

def step (e : Errand ε α) (c : ProviderCache α) :
    Option (Lookup ε α) → Lookup ε α × ProviderCache α
  | none => match c.hit? e.request with
    | some a => (.finished (.ok a), c)
    | none => (.building e.request, c)
  | some (.building r) => match e.product with
    | .error x => (.finished (.error x), c)
    | .ok candidate => (.built r candidate, c)
  | some (.built _ candidate) =>
    let s := c.settle e.request candidate
    (s.lookup, s.cache)
  | some (.discarding a _) => (.finished (.ok a), c)
  | some (.finished result) => (.finished result, c)

def answer? (e : Errand ε α) : Option (Lookup ε α) → Option (Except ε (Resolved α))
  | some (.building _) => match e.product with
    | .error x => some (.error x)
    | .ok _ => none
  | some (.discarding a _) => some (.ok a)
  | some (.finished result) => some result
  | none | some (.built ..) => none

def perform (e : Errand ε α) (c : ProviderCache α) : Except ε (Resolved α) × ProviderCache α :=
  match c.hit? e.request with
  | some a => (.ok a, c)
  | none => match e.product with
    | .error x => (.error x, c)
    | .ok candidate => (.ok (c.settle e.request candidate).resolved,
        (c.settle e.request candidate).cache)

variable {e : Errand ε α} {c : ProviderCache α}

theorem settle_of_hit {r : Request} {a : Resolved α} (h : c.hit? r = some a)
    (candidate : Option α) : c.settle r candidate = ⟨c, ⟨a.provider, .raced⟩, candidate⟩ := by
  unfold hit? at h
  unfold ProviderCache.settle
  cases he : entry? c r.key with
  | none =>
    rw [he] at h
    cases h
  | some entry =>
    rw [he] at h
    cases entry with
    | some p =>
      cases h
      simp
    | none =>
      cases hr : r.enables with
      | true => simp [hr] at h
      | false =>
        obtain rfl : (⟨none, .cached⟩ : Resolved α) = a := by simpa [hr] using h
        simp

/-- The second step of a lookup comes to what the whole lookup would come to at that moment. -/
theorem perform_of_built {candidate : Option α} (h : e.product = .ok candidate) :
    (e.perform c).2 = (c.settle e.request candidate).cache ∧
      gist (e.perform c).1 = gist (.ok (c.settle e.request candidate).resolved) := by
  unfold perform
  cases hh : c.hit? e.request with
  | none => simp [h]
  | some a =>
    have ho := origin_of_hit? hh
    simp [settle_of_hit hh, gist, ho, Except.map]

theorem perform_of_error {x : ε} (h : e.product = .error x) : (e.perform c).2 = c := by
  unfold perform
  rw [h]
  split <;> rfl

theorem entry?_perform (e : Errand ε α) (c : ProviderCache α) {key : String}
    (h : key ≠ e.request.key) : entry? (e.perform c).2 key = entry? c key := by
  have put (value : Option α) : entry? (c.put e.request.key value) key = entry? c key := by
    rw [entry?_put, if_neg (Ne.symm h)]
  unfold perform
  split
  · rfl
  · split
    · rfl
    · unfold ProviderCache.settle
      split
      · exact put _
      · split
        · exact put _
        · rfl

end Errand

structure Rush (ι ε α : Type) where
  cache : ProviderCache α
  lookups : ι → Option (Lookup ε α) := fun _ ↦ none

namespace Rush

variable [DecidableEq ι] (errands : ι → Errand ε α)

def step (t : Rush ι ε α) (i : ι) : Rush ι ε α :=
  let (l, cache) := (errands i).step t.cache (t.lookups i)
  { cache, lookups := Function.update t.lookups i (some l) }

def run (c : ProviderCache α) (schedule : List ι) : Rush ι ε α :=
  schedule.foldl (step errands) { cache := c }

def answer? (t : Rush ι ε α) (i : ι) : Option (Except ε (Resolved α)) :=
  (errands i).answer? (t.lookups i)

/-- The lookups in the order in which they take effect. -/
def order (t : Rush ι ε α) : List ι → List ι
  | [] => []
  | i :: is =>
    (if (t.answer? errands i).isNone && ((t.step errands i).answer? errands i).isSome
      then [i] else []) ++ order (t.step errands i) is

def alone (is : List ι) : List ι := is.flatMap (List.replicate 4)

section Runs

variable {errands}

theorem run_append (c : ProviderCache α) (first more : List ι) :
    run errands c (first ++ more) = more.foldl (step errands) (run errands c first) :=
  List.foldl_append ..

theorem run_concat (c : ProviderCache α) (is : List ι) (i : ι) :
    run errands c (is ++ [i]) = (run errands c is).step errands i := run_append c is [i]

theorem order_append (t : Rush ι ε α) (first more : List ι) : t.order errands (first ++ more) =
    t.order errands first ++ (first.foldl (step errands) t).order errands more := by
  induction first generalizing t with
  | nil => rfl
  | cons i first ih => rw [List.cons_append, order, order, ih, List.append_assoc]; rfl

theorem lookups_step_self (t : Rush ι ε α) (i : ι) : (t.step errands i).lookups i =
    some ((errands i).step t.cache (t.lookups i)).1 := Function.update_self ..

theorem lookups_step_of_ne (t : Rush ι ε α) {i j : ι} (h : j ≠ i) :
    (t.step errands i).lookups j = t.lookups j := Function.update_of_ne h ..

theorem answer?_step_of_ne (t : Rush ι ε α) {i j : ι} (h : j ≠ i) :
    (t.step errands i).answer? errands j = t.answer? errands j := by
  rw [answer?, answer?, lookups_step_of_ne t h]

theorem lookups_of_not_mem (c : ProviderCache α) {schedule : List ι} {i : ι}
    (h : i ∉ schedule) : (run errands c schedule).lookups i = none := by
  induction schedule using List.reverseRecOn with
  | nil => rfl
  | append_singleton is j ih =>
    rw [List.mem_append, List.mem_singleton, not_or] at h
    rw [run_concat, lookups_step_of_ne _ h.2, ih h.1]

theorem run_alone (t : Rush ι ε α) {i : ι} (h : t.lookups i = none) :
    (List.replicate 4 i).foldl (step errands) t =
      { cache := ((errands i).perform t.cache).2
        lookups := Function.update t.lookups i
          (some (.finished ((errands i).perform t.cache).1)) } := by
  obtain ⟨c, lookups⟩ := t
  obtain h : lookups i = none := h
  simp only [List.replicate, List.foldl_cons, List.foldl_nil]
  unfold Errand.perform
  cases hh : c.hit? (errands i).request with
  | some a => simp [step, Errand.step, h, hh]
  | none =>
    cases hp : (errands i).product with
    | error x => simp [step, Errand.step, h, hh, hp]
    | ok candidate =>
      cases hd : (c.settle (errands i).request candidate).discarded with
      | none => simp [step, Errand.step, Settled.lookup, h, hh, hp, hd]
      | some p => simp [step, Errand.step, Settled.lookup, h, hh, hp, hd]

theorem step_cases (t : Rush ι ε α) (i : ι)
    (hb : ∀ r candidate, t.lookups i = some (.built r candidate) →
      (errands i).product = .ok candidate) :
    ((t.step errands i).cache = t.cache ∧
      (t.step errands i).answer? errands i = t.answer? errands i) ∨
    (t.answer? errands i = none ∧ ∃ result, (t.step errands i).answer? errands i = some result ∧
      (t.step errands i).cache = ((errands i).perform t.cache).2 ∧
      gist ((errands i).perform t.cache).1 = gist result) := by
  have hself : (t.step errands i).lookups i =
      some ((errands i).step t.cache (t.lookups i)).1 := lookups_step_self t i
  cases hl : t.lookups i with
  | none =>
    cases hh : t.cache.hit? (errands i).request with
    | some a =>
      refine .inr ⟨by simp [answer?, Errand.answer?, hl], .ok a, ?_, ?_, ?_⟩
      · simp [answer?, Errand.answer?, hself, Errand.step, hl, hh]
      · simp [step, Errand.step, Errand.perform, hl, hh]
      · simp [Errand.perform, hh]
    | none =>
      cases hp : (errands i).product with
      | error x =>
        refine .inr ⟨by simp [answer?, Errand.answer?, hl], .error x, ?_, ?_, ?_⟩
        · simp [answer?, Errand.answer?, hself, Errand.step, hl, hh, hp]
        · simp [step, Errand.step, Errand.perform, hl, hh, hp]
        · simp [Errand.perform, hh, hp]
      | ok candidate =>
        refine .inl ⟨?_, ?_⟩
        · simp [step, Errand.step, hl, hh]
        · simp [answer?, Errand.answer?, hself, Errand.step, hl, hh, hp]
  | some l =>
    cases l with
    | building r =>
      refine .inl ⟨?_, ?_⟩
      · cases hp : (errands i).product <;> simp [step, Errand.step, hl, hp]
      · cases hp : (errands i).product <;>
          simp [answer?, Errand.answer?, hself, Errand.step, hl, hp]
    | built r candidate =>
      obtain ⟨hcache, hgist⟩ := Errand.perform_of_built (c := t.cache) (hb r candidate hl)
      refine .inr ⟨by simp [answer?, Errand.answer?, hl],
        .ok (t.cache.settle (errands i).request candidate).resolved, ?_, ?_, hgist⟩
      · rw [answer?, hself, hl]
        simp only [Errand.step, Settled.lookup]
        split <;> rfl
      · rw [hcache, step, hl]
        rfl
    | discarding a p =>
      refine .inl ⟨?_, ?_⟩
      · simp [step, Errand.step, hl]
      · simp [answer?, Errand.answer?, hself, Errand.step, hl]
    | finished result =>
      refine .inl ⟨?_, ?_⟩
      · simp [step, Errand.step, hl]
      · simp [answer?, Errand.answer?, hself, Errand.step, hl]

end Runs

/-- The lookups that have taken effect, made one after the other in this order, come to the answers
and the cache that there are now. -/
structure Ordered (c : ProviderCache α) (t : Rush ι ε α) (is : List ι) : Prop where
  once : is.Nodup
  decided : ∀ i, i ∈ is ↔ (t.answer? errands i).isSome
  built : ∀ i r candidate, t.lookups i = some (.built r candidate) →
    (errands i).product = .ok candidate
  cache : (run errands c (alone is)).cache = t.cache
  answers : ∀ i result, t.answer? errands i = some result →
    ∃ result', (run errands c (alone is)).lookups i = some (.finished result') ∧
      gist result' = gist result

variable {errands} {c : ProviderCache α} {t : Rush ι ε α} {is : List ι}

theorem Ordered.start (c : ProviderCache α) : Ordered errands c { cache := c } [] where
  once := List.nodup_nil
  decided i := by simp [answer?, Errand.answer?]
  built i r candidate h := by cases h
  cache := rfl
  answers i result h := by simp [answer?, Errand.answer?] at h

theorem Ordered.built_step (h : Ordered errands c t is) (i : ι) :
    ∀ j r candidate, (t.step errands i).lookups j = some (.built r candidate) →
      (errands j).product = .ok candidate := by
  intro j r candidate hj
  by_cases hji : j = i
  · subst hji
    rw [lookups_step_self, Option.some_inj] at hj
    unfold Errand.step at hj
    split at hj
    · split at hj <;> cases hj
    · split at hj
      · cases hj
      · next hp =>
        cases hj
        exact hp
    · simp only [Settled.lookup] at hj
      split at hj <;> cases hj
    · cases hj
    · cases hj
  · rw [lookups_step_of_ne t hji] at hj
    exact h.built j r candidate hj

theorem Ordered.keep (h : Ordered errands c t is) {i : ι}
    (hc : (t.step errands i).cache = t.cache)
    (ha : (t.step errands i).answer? errands i = t.answer? errands i) :
    Ordered errands c (t.step errands i) is := by
  have same (j : ι) : (t.step errands i).answer? errands j = t.answer? errands j := by
    by_cases hji : j = i
    · rw [hji, ha]
    · exact answer?_step_of_ne t hji
  refine ⟨h.once, fun j ↦ ?_, h.built_step i, by rw [hc, h.cache], fun j result hj ↦ ?_⟩
  · rw [same, h.decided]
  · rw [same] at hj
    exact h.answers j result hj

theorem Ordered.concat (h : Ordered errands c t is) {i : ι} (hi : t.answer? errands i = none)
    {result : Except ε (Resolved α)} (ha : (t.step errands i).answer? errands i = some result)
    (hc : (t.step errands i).cache = ((errands i).perform t.cache).2)
    (hg : gist ((errands i).perform t.cache).1 = gist result) :
    Ordered errands c (t.step errands i) (is ++ [i]) := by
  have hnew : i ∉ is := by
    rw [h.decided, hi]
    simp
  have hidle : (run errands c (alone is)).lookups i = none := by
    apply lookups_of_not_mem
    simpa [alone] using hnew
  have hrun : run errands c (alone (is ++ [i])) =
      { cache := ((errands i).perform t.cache).2
        lookups := Function.update (run errands c (alone is)).lookups i
          (some (.finished ((errands i).perform t.cache).1)) } := by
    rw [alone, List.flatMap_append, List.flatMap_singleton, ← alone, run_append, run_alone _ hidle,
      h.cache]
  refine ⟨?_, fun j ↦ ?_, h.built_step i, by rw [hrun, hc], fun j result' hj ↦ ?_⟩
  · rw [← List.concat_eq_append]
    exact h.once.concat hnew
  · rw [List.mem_append, List.mem_singleton]
    by_cases hji : j = i
    · subst hji
      simp [ha]
    · simp [hji, answer?_step_of_ne t hji, h.decided]
  · rw [hrun]
    by_cases hji : j = i
    · subst hji
      obtain rfl : result = result' := Option.some_inj.mp (ha.symm.trans hj)
      exact ⟨_, Function.update_self .., hg⟩
    · rw [answer?_step_of_ne t hji] at hj
      obtain ⟨r, hr, hgr⟩ := h.answers j result' hj
      exact ⟨r, (Function.update_of_ne hji ..).trans hr, hgr⟩

theorem Ordered.step (h : Ordered errands c t is) (i : ι) :
    Ordered errands c (t.step errands i) (is ++ t.order errands [i]) := by
  rcases step_cases t i (h.built i) with ⟨hc, ha⟩ | ⟨hi, result, ha, hc, hg⟩
  · have hnone : t.order errands [i] = [] := by
      rw [order, ha]
      cases t.answer? errands i <;> rfl
    rw [hnone, List.append_nil]
    exact h.keep hc ha
  · have hsome : t.order errands [i] = [i] := by
      rw [order, hi, ha]
      rfl
    rw [hsome]
    exact h.concat hi ha hc hg

variable (errands c)

theorem ordered_run (schedule : List ι) : Ordered errands c (run errands c schedule)
    (order errands { cache := c } schedule) := by
  induction schedule using List.reverseRecOn with
  | nil => exact .start c
  | append_singleton is i ih =>
    rw [run_concat, order_append]
    exact ih.step i

/-- The lookups of a schedule could as well have been made one after the other in this order, with
the same answers and the same cache. A lookup that is over before another one begins comes first. -/
structure Linearization (schedule is : List ι) : Prop where
  once : is.Nodup
  called : ∀ i ∈ is, i ∈ schedule
  complete : ∀ i result, (run errands c schedule).lookups i = some (.finished result) → i ∈ is
  inTime : ∀ first, first <+: schedule → ∀ i j result,
    (run errands c first).lookups i = some (.finished result) →
    (run errands c first).lookups j = none → j ∈ is → [i, j].Sublist is
  answers : ∀ i result, (run errands c schedule).lookups i = some (.finished result) →
    ∃ result', (run errands c (alone is)).lookups i = some (.finished result') ∧
      gist result' = gist result
  cache : (run errands c (alone is)).cache = (run errands c schedule).cache

theorem linearization_order (schedule : List ι) :
    Linearization errands c schedule (order errands { cache := c } schedule) := by
  have h := ordered_run errands c schedule
  have decided_of_finished {is : List ι} {i : ι} {result : Except ε (Resolved α)}
      (hi : (run errands c is).lookups i = some (.finished result)) :
      (run errands c is).answer? errands i = some result := by
    rw [answer?, hi]
    rfl
  refine ⟨h.once, fun i hi ↦ ?_, fun i result hi ↦ ?_, ?_, fun i result hi ↦ ?_, h.cache⟩
  · by_contra hnot
    rw [h.decided, answer?, lookups_of_not_mem c hnot] at hi
    cases hi
  · rw [h.decided, decided_of_finished hi]
    rfl
  · -- The order only grows at its end: what has taken effect stays in front.
    rintro first ⟨more, rfl⟩ i j result hi hj hm
    have hfirst := ordered_run errands c first
    have hi' : i ∈ order errands { cache := c } first := by
      rw [hfirst.decided, decided_of_finished hi]
      rfl
    have hj' : j ∉ order errands { cache := c } first := by
      rw [hfirst.decided, answer?, hj]
      nofun
    rw [order_append] at hm ⊢
    have hlater := (List.mem_append.mp hm).resolve_left hj'
    exact (List.singleton_sublist.mpr hi').append (List.singleton_sublist.mpr hlater)
  · exact h.answers i result (decided_of_finished hi)

/-- Lookups that run at the same time are linearizable, whatever their factories come to. A lookup
whose factory fails leaves the cache as it is, and no lookup touches any key but its own. -/
theorem linearizable (schedule : List ι) :
    (∃ is, Linearization errands c schedule is) ∧
    (∀ i x, (errands i).product = .error x →
      (run errands c (schedule ++ [i])).cache = (run errands c schedule).cache) ∧
    ∀ i key, key ≠ (errands i).request.key →
      entry? (run errands c (schedule ++ [i])).cache key =
        entry? (run errands c schedule).cache key := by
  have hcases (i : ι) := step_cases (run errands c schedule) i
    ((ordered_run errands c schedule).built i)
  refine ⟨⟨_, linearization_order errands c schedule⟩, fun i x hx ↦ ?_, fun i key hkey ↦ ?_⟩
  · rw [run_concat]
    rcases hcases i with ⟨hc, _⟩ | ⟨_, _, _, hc, _⟩
    · exact hc
    · rw [hc, Errand.perform_of_error hx]
  · rw [run_concat]
    rcases hcases i with ⟨hc, _⟩ | ⟨_, _, _, hc, _⟩
    · rw [hc]
    · rw [hc, Errand.entry?_perform _ _ hkey]

/-- Of two lookups that both have a provider built, the one whose second step comes first goes
first. -/
example : order (fun i : Fin 2 ↦ (⟨⟨"svc", true⟩, .ok (some i.val)⟩ : Errand Unit Nat))
    { cache := {} } [0, 1, 0, 1, 1, 0, 0] = [1, 0] := by decide

end Rush

namespace Traffic

variable [DecidableEq α]

theorem lookups_settle (t : Traffic ε α) (i : Nat) (r : Request) (candidate : Option α) :
    (t.settle i r candidate).lookups = t.lookups.set i (t.cache.settle r candidate).lookup := by
  unfold Traffic.settle Settled.lookup
  rfl

theorem exists_perform (t : Traffic ε α) (e : Errand ε α)
    (fresh : ∀ p, e.product = .ok (some p) → ∀ n ∈ t.log, n.product? ≠ some p) :
    ∃ t', Relation.ReflTransGen Step t t' ∧ t'.cache = (e.perform t.cache).2 ∧
      t'.lookups = t.lookups ++ [.finished (e.perform t.cache).1] := by
  have last (l : Lookup ε α) : (t.lookups ++ [l])[t.lookups.length]? = some l := by simp
  have replaced (l l' : Lookup ε α) :
      (t.lookups ++ [l]).set t.lookups.length l' = t.lookups ++ [l'] := by simp
  unfold Errand.perform
  cases hh : t.cache.hit? e.request with
  | some a => exact ⟨_, .single (.hit hh), rfl, rfl⟩
  | none =>
    have missed : Relation.ReflTransGen Step t (t.begin e.request (.building e.request)) :=
      .single (.miss hh)
    cases hp : e.product with
    | error x => exact ⟨_, missed.tail (.fail x (last _)), rfl, replaced _ _⟩
    | ok candidate =>
      have new (p : α) (hc : p ∈ candidate) (n : Note ε α)
          (hn : n ∈ (t.begin e.request (.building e.request)).log) : n.product? ≠ some p := by
        rcases List.mem_cons.mp hn with rfl | hn
        · simp [Note.product?]
        · exact fresh p (by rw [hp, Option.mem_def.mp hc]) n hn
      have built := missed.tail (.build candidate (last _) new)
      have settled := built.tail (.settle (by rw [goOn, begin, replaced]; exact last _))
      cases hd : (t.cache.settle e.request candidate).discarded with
      | none =>
        refine ⟨_, settled, rfl, ?_⟩
        simp [lookups_settle, goOn, begin, Settled.lookup, hd]
      | some p =>
        have lost := settled.tail (.discard (i := t.lookups.length) (p := p)
          (a := (t.cache.settle e.request candidate).resolved)
          (by simp [lookups_settle, goOn, begin, Settled.lookup, hd]))
        refine ⟨_, lost, rfl, ?_⟩
        simp [lookups_settle, goOn, begin]

end Traffic

end Telemetry.ProviderCache

namespace Telemetry.Registry

theorem resolve_eq_perform (reg : Registry) (cache : ProviderCache Nat) (resource : Resource)
    (c : ExporterConfig) (k : Signal) :
    ((reg.resolve cache resource c k).1, (reg.resolve cache resource c k).2.1) =
      (ProviderCache.Errand.mk (request c) (reg.build resource c k).1).perform cache := by
  unfold resolve ProviderCache.Errand.perform
  cases cache.hit? (request c) with
  | some found => rfl
  | none =>
    rcases reg.build resource c k with ⟨e | candidate, now⟩
    · rfl
    · rfl

end Telemetry.Registry
