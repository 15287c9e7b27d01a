import Mathlib
import Telemetry.Proofs.Installation.Supply
import Telemetry.Proofs.Provider.Bindings
import Telemetry.Proofs.Provider.Linearization

namespace Telemetry

open ProviderCache (Traffic)

variable {ε : Type}

theorem Resolved.chores_cases (a : Resolved Nat) :
    (∃ p, a = ⟨some p, .created⟩ ∧ a.chores = [.install p, .announce]) ∨
      (a.isNew = false ∧ a.chores = []) := by
  obtain ⟨provider, origin⟩ := a
  cases origin <;> cases provider <;> simp [chores, isNew]

def tasks : Except ε (Resolved Nat) → List Chore
  | .ok a => a.chores
  | .error _ => []

theorem getElem?_tasks_install {result : Except ε (Resolved Nat)} {n p : Nat}
    (h : (tasks result)[n]? = some (.install p)) : n = 0 ∧ result = .ok ⟨some p, .created⟩ := by
  cases result with
  | error e => cases h
  | ok a =>
    obtain ⟨q, rfl, hchores⟩ | ⟨-, hnone⟩ := a.chores_cases
    · rw [tasks, hchores] at h
      match n with
      | 0 =>
        cases h
        exact ⟨rfl, rfl⟩
      | 1 => cases h
      | n + 2 => cases h
    · rw [tasks, hnone] at h
      cases h

namespace Registry

variable (reg : Registry) (resource : Resource) (c : ExporterConfig) (k : Signal)

theorem ambient_foldl_attend (chores : List Chore) :
    (chores.foldl (attend c k) reg).ambient =
      chores.foldl (fun a chore ↦ a.after k chore) reg.ambient := by
  induction chores generalizing reg with
  | nil => rfl
  | cons chore chores ih =>
    refine (ih _).trans ?_
    cases chore <;> rfl

theorem ambient_conclude (s : ProviderCache.Settled Nat) :
    (reg.conclude c k s).ambient = reg.ambient := by
  unfold conclude
  cases s.discarded <;> rfl

theorem ambient_build : (reg.build resource c k).2.ambient = reg.ambient := by
  unfold build
  rcases (Pipeline.build reg.ids resource c k).run reg.events with ⟨e | _ | pipeline, events⟩
  all_goals rfl

theorem ambient_resolve (cache : ProviderCache Nat) :
    (reg.resolve cache resource c k).2.2.ambient =
      (tasks (reg.resolve cache resource c k).1).foldl (fun a chore ↦ a.after k chore)
        reg.ambient := by
  have hbuild := reg.ambient_build resource c k
  unfold resolve
  cases cache.hit? (request c) with
  | some found => exact ambient_foldl_attend reg c k found.chores
  | none =>
    generalize reg.build resource c k = built at hbuild
    obtain ⟨e | candidate, now⟩ := built
    · exact hbuild
    · have hnow : now.ambient = reg.ambient := hbuild
      dsimp only
      rw [ambient_foldl_attend, ambient_conclude, hnow]
      rfl

end Registry

/-- Lookups that run at the same time, the default of their signal, what lookups have done since
they have their answers, latest first, and the lookups that have returned. -/
structure Rollout (ε : Type) where
  traffic : Traffic ε Nat := {}
  ambient : Ambient
  performed : List (Nat × Chore) := []
  returned : List Nat := []

namespace Rollout

def counter (s : Rollout ε) (i : Nat) : Nat :=
  s.performed.countP (·.1 == i)

def installed (s : Rollout ε) : List (Nat × Nat) :=
  s.performed.filterMap fun
    | (i, .install p) => some (i, p)
    | (_, .announce) => none

def perform (s : Rollout ε) (k : Signal) (i : Nat) (chore : Chore) : Rollout ε :=
  { s with ambient := s.ambient.after k chore, performed := (i, chore) :: s.performed }

/-- One step of anyone: a step on the cache, the next chore of a lookup that has its answer, or the
return of one that has nothing left to do. -/
inductive Step (k : Signal) (s : Rollout ε) : Rollout ε → Prop
  | look {t : Traffic ε Nat} (h : Traffic.Step s.traffic t) : Step k s { s with traffic := t }
  | attend {i : Nat} {result : Except ε (Resolved Nat)} {chore : Chore}
      (hi : s.traffic.lookups[i]? = some (.finished result))
      (hnext : (tasks result)[s.counter i]? = some chore) : Step k s (s.perform k i chore)
  | leave {i : Nat} {result : Except ε (Resolved Nat)}
      (hi : s.traffic.lookups[i]? = some (.finished result))
      (hend : (tasks result)[s.counter i]? = none) :
      Step k s { s with returned := i :: s.returned }

def Reached (k : Signal) (before : Ambient) : Rollout ε → Prop :=
  Relation.ReflTransGen (Step k) { ambient := before }

variable {k : Signal} {before : Ambient} {s s' : Rollout ε} {i p : Nat}
  {result : Except ε (Resolved Nat)} {chore : Chore}

theorem mem_installed_iff : (i, p) ∈ s.installed ↔ (i, .install p) ∈ s.performed := by
  unfold installed
  rw [List.mem_filterMap]
  constructor
  · intro h
    obtain ⟨⟨j, chore⟩, hmem, heq⟩ := h
    cases chore with
    | install q =>
      cases heq
      exact hmem
    | announce => cases heq
  · intro h
    exact ⟨_, h, rfl⟩

theorem counter_pos_iff : 0 < s.counter i ↔ ∃ chore, (i, chore) ∈ s.performed := by
  simp [counter, List.countP_pos_iff]

theorem counter_perform (s : Rollout ε) (k : Signal) (i j : Nat) (chore : Chore) :
    (s.perform k i chore).counter j = s.counter j + if i = j then 1 else 0 := by
  simp [counter, perform, List.countP_cons]

/-- What is true after every step. -/
structure Kept (k : Signal) (before : Ambient) (s : Rollout ε) : Prop where
  sound : s.traffic.Sound
  performed : ∀ i chore, (i, chore) ∈ s.performed →
    ∃ (result : Except ε (Resolved Nat)) (n : Nat),
      s.traffic.lookups[i]? = some (.finished result) ∧ (tasks result)[n]? = some chore
  counted : ∀ i result, s.traffic.lookups[i]? = some (.finished result) → ∀ n < s.counter i,
    ∀ chore, (tasks result)[n]? = some chore → (i, chore) ∈ s.performed
  once : (s.installed.map Prod.fst).Nodup
  returned : ∀ i ∈ s.returned, ∃ result, s.traffic.lookups[i]? = some (.finished result) ∧
    ∀ chore ∈ tasks result, (i, chore) ∈ s.performed
  slot : s.ambient.slot k = ((s.installed.head?.map Prod.snd) <|> before.slot k)

theorem Kept.start (k : Signal) (before : Ambient) :
    Kept k before ({ ambient := before } : Rollout ε) where
  sound := .start
  performed i chore h := by cases h
  counted i result hi n hn := by cases hn
  once := List.nodup_nil
  returned i h := by cases h
  slot := rfl

theorem Kept.look (h : Kept k before s) {t : Traffic ε Nat} (hst : Traffic.Step s.traffic t) :
    Kept k before { s with traffic := t } where
  sound := h.sound.step hst
  performed i chore hmem := by
    obtain ⟨result, n, hi, hn⟩ := h.performed i chore hmem
    exact ⟨result, n, Host.finished_mono hst hi, hn⟩
  counted i result hi n hn chore hchore := by
    -- A lookup has done nothing before it has its answer.
    obtain ⟨_, hmem⟩ := counter_pos_iff.mp (Nat.zero_lt_of_lt hn)
    obtain ⟨result', _, hi', -⟩ := h.performed i _ hmem
    have hsame := (Host.finished_mono hst hi').symm.trans hi
    cases hsame
    exact h.counted i result hi' n hn chore hchore
  once := h.once
  returned i hi := by
    obtain ⟨result, hl, hall⟩ := h.returned i hi
    exact ⟨result, Host.finished_mono hst hl, hall⟩
  slot := h.slot

theorem Kept.attend (h : Kept k before s) (hi : s.traffic.lookups[i]? = some (.finished result))
    (hnext : (tasks result)[s.counter i]? = some chore) : Kept k before (s.perform k i chore) where
  sound := h.sound
  performed j other hmem := by
    obtain heq | hmem := List.mem_cons.mp hmem
    · cases heq
      exact ⟨result, _, hi, hnext⟩
    · exact h.performed j other hmem
  counted j result' hj n hn other hother := by
    apply List.mem_cons.mpr
    rw [counter_perform] at hn
    by_cases hij : i = j
    · subst hij
      have hsame := hi.symm.trans hj
      cases hsame
      rw [if_pos rfl] at hn
      obtain hlt | rfl := Nat.lt_succ_iff_lt_or_eq.mp hn
      · exact .inr (h.counted i result hi n hlt other hother)
      · cases hnext.symm.trans hother
        exact .inl rfl
    · rw [if_neg hij] at hn
      exact .inr (h.counted j result' hj n hn other hother)
  once := by
    cases chore with
    | announce => exact h.once
    | install p =>
      refine List.nodup_cons.mpr ⟨?_, h.once⟩
      intro hmem
      obtain ⟨⟨j, q⟩, hq, rfl⟩ := List.mem_map.mp hmem
      have hpos : 0 < s.counter j := counter_pos_iff.mpr ⟨_, mem_installed_iff.mp hq⟩
      exact hpos.ne' (getElem?_tasks_install hnext).1
  returned j hj := by
    obtain ⟨result', hl, hall⟩ := h.returned j hj
    exact ⟨result', hl, fun other hother ↦ List.mem_cons_of_mem _ (hall other hother)⟩
  slot := by
    cases chore with
    | announce => exact h.slot
    | install p =>
      show (s.ambient.set k p).slot k = _
      rw [Ambient.slot_set, if_pos rfl]
      rfl

theorem Kept.leave (h : Kept k before s) (hi : s.traffic.lookups[i]? = some (.finished result))
    (hend : (tasks result)[s.counter i]? = none) :
    Kept k before { s with returned := i :: s.returned } where
  sound := h.sound
  performed := h.performed
  counted := h.counted
  once := h.once
  returned j hj := by
    obtain rfl | hj := List.mem_cons.mp hj
    · refine ⟨result, hi, fun chore hchore ↦ ?_⟩
      obtain ⟨n, hn⟩ := List.mem_iff_getElem?.mp hchore
      have hlt := (List.getElem?_eq_some_iff.mp hn).1
      exact h.counted j result hi n (hlt.trans_le (List.getElem?_eq_none_iff.mp hend)) chore hn
    · exact h.returned j hj
  slot := h.slot

theorem Kept.step (h : Kept k before s) (hst : Step k s s') : Kept k before s' := by
  cases hst with
  | look ht => exact h.look ht
  | attend hi hnext => exact h.attend hi hnext
  | leave hi hend => exact h.leave hi hend

theorem Reached.kept (h : Reached k before s) : Kept k before s := by
  induction h with
  | refl => exact .start k before
  | tail _ hst ih => exact ih.step hst

theorem Kept.winners (h : Kept k before s) (hp : (i, p) ∈ s.installed) :
    s.traffic.lookups[i]? = some (.finished (.ok ⟨some p, .created⟩)) := by
  obtain ⟨result, n, hi, hn⟩ := h.performed i _ (mem_installed_iff.mp hp)
  rwa [(getElem?_tasks_install hn).2] at hi

theorem Kept.won (h : Kept k before s) (hp : (i, p) ∈ s.installed) :
    .made i (.ok (some p)) ∈ s.traffic.log ∧ (∃ key, .inserted i key p ∈ s.traffic.log) ∧
      Traffic.closers p s.traffic.log = [] := by
  have hi := h.winners hp
  have hm := Host.made_of_created h.sound hi
  rcases h.sound.candidate hi hm with ⟨_, ⟨r, _, hins⟩, hcl⟩ | ⟨ho, _⟩
  · exact ⟨hm, ⟨r.key, hins⟩, hcl⟩
  · cases ho

theorem Kept.providers_nodup (h : Kept k before s) : (s.installed.map Prod.snd).Nodup := by
  rw [List.nodup_map_iff_inj_on h.once.of_map]
  rintro ⟨i, p⟩ hi ⟨j, q⟩ hj (rfl : p = q)
  rw [h.sound.maker_unique (h.won hi).1 (h.won hj).1]

theorem Kept.installed_of_returned (h : Kept k before s) {key : String}
    (hp : .inserted i key p ∈ s.traffic.log) (hr : i ∈ s.returned) : (i, p) ∈ s.installed := by
  obtain ⟨result, hi, hall⟩ := h.returned i hr
  obtain ⟨l, hl, htr, hm⟩ := h.sound.traced_of_mem hp rfl
  rw [hi, Option.some_inj] at hl
  subst hl
  have hmade := (Traffic.mem_trail rfl).mp (htr.made_of_inserted hm)
  obtain ⟨a, rfl⟩ := Host.answer_of_made h.sound hmade hi
  obtain ⟨rfl, -⟩ | ⟨-, hnot, -⟩ := h.sound.candidate hi hmade
  · apply mem_installed_iff.mpr
    exact hall _ List.mem_cons_self
  · exact absurd hp (hnot i key)

/-- However lookups run at the same time, and whatever the default was before:
* a lookup that put a provider into the cache has set it as the default by the time it returns, and
  no provider is set twice;
* the default is never set by a lookup that did not make a provider, nor to a provider that did not
  go into the cache or that a lookup has shut down;
* the default is what it was before, or a provider that went into the cache and that no lookup has
  shut down. -/
theorem Reached.installs_winners (h : Reached k before s) :
    (∀ i key p, .inserted i key p ∈ s.traffic.log → i ∈ s.returned →
      (s.installed.map Prod.snd).count p = 1) ∧
    (∀ p, (s.installed.map Prod.snd).count p ≤ 1) ∧
    (∀ i a, s.traffic.lookups[i]? = some (.finished (.ok a)) → a.isNew = false →
      i ∉ s.installed.map Prod.fst) ∧
    (∀ i p, .made i (.ok (some p)) ∈ s.traffic.log → p ∈ s.installed.map Prod.snd →
      (∃ key, .inserted i key p ∈ s.traffic.log) ∧ Traffic.closers p s.traffic.log = []) ∧
    (s.ambient.slot k = before.slot k ∨ ∃ i key p, s.ambient.slot k = some p ∧
      .inserted i key p ∈ s.traffic.log ∧ Traffic.closers p s.traffic.log = []) := by
  have hk := h.kept
  refine ⟨?_, ?_, ?_, ?_, ?_⟩
  · intro i key p hp hr
    apply List.count_eq_one_of_mem hk.providers_nodup
    exact List.mem_map_of_mem (f := Prod.snd) (hk.installed_of_returned hp hr)
  · intro p
    exact List.nodup_iff_count_le_one.mp hk.providers_nodup p
  · intro i a hi hnew hm
    obtain ⟨⟨j, p⟩, hj, rfl⟩ := List.mem_map.mp hm
    rw [hk.winners hj] at hi
    cases hi
    cases hnew
  · intro i p hmade hm
    obtain ⟨⟨j, q⟩, hj, rfl⟩ := List.mem_map.mp hm
    obtain ⟨hmade', hwon⟩ := hk.won hj
    obtain rfl := hk.sound.maker_unique hmade hmade'
    exact hwon
  · rw [hk.slot]
    cases hlast : s.installed with
    | nil => exact .inl rfl
    | cons last _ =>
      obtain ⟨_, ⟨key, hins⟩, hcl⟩ := hk.won (i := last.1) (p := last.2) (by simp [hlast])
      exact .inr ⟨last.1, key, last.2, rfl, hins, hcl⟩

theorem Reached.looked (k : Signal) (before : Ambient) {t : Traffic ε Nat}
    (h : Traffic.Reached t) : Reached k before { traffic := t, ambient := before } := by
  induction h with
  | start => exact .refl
  | step _ hst ih => exact ih.tail (.look hst)

theorem Reached.look (h : Reached k before s) {t : Traffic ε Nat}
    (ht : Relation.ReflTransGen Traffic.Step s.traffic t) :
    Reached k before { s with traffic := t } := by
  induction ht with
  | refl => exact h
  | tail _ hst ih => exact ih.tail (.look hst)

theorem Reached.attended (h : Reached k before s)
    (hi : s.traffic.lookups[i]? = some (.finished result)) (hcounter : s.counter i = 0) {n : Nat}
    (hn : n ≤ (tasks result).length) :
    ∃ s', Reached k before s' ∧ s'.traffic = s.traffic ∧ s'.counter i = n ∧
      s'.ambient = ((tasks result).take n).foldl (fun a chore ↦ a.after k chore) s.ambient := by
  -- The tasks that are done are the first ones, and the counter says which one is next.
  induction n with
  | zero => exact ⟨s, h, rfl, hcounter, rfl⟩
  | succ n ih =>
    obtain ⟨s', hs', htraffic, hn', hambient⟩ := ih (Nat.le_of_succ_le hn)
    have hnext : (tasks result)[s'.counter i]? = some (tasks result)[n] := by
      rw [hn']
      exact List.getElem?_eq_getElem hn
    refine ⟨_, hs'.tail (.attend (htraffic ▸ hi) hnext), htraffic, ?_, ?_⟩
    · rw [counter_perform, if_pos rfl, hn']
    · show s'.ambient.after k _ = _
      rw [List.take_succ_eq_append_getElem hn, List.foldl_append, hambient]
      rfl

theorem Reached.finish (h : Reached k before s)
    (hi : s.traffic.lookups[i]? = some (.finished result)) (hcounter : s.counter i = 0) :
    ∃ s', Reached k before s' ∧ s'.traffic = s.traffic ∧ i ∈ s'.returned ∧
      s'.ambient = (tasks result).foldl (fun a chore ↦ a.after k chore) s.ambient := by
  obtain ⟨s', hs', htraffic, hn, hambient⟩ := h.attended hi hcounter le_rfl
  have hend : (tasks result)[s'.counter i]? = none := by
    rw [hn]
    exact List.getElem?_eq_none le_rfl
  rw [List.take_length] at hambient
  exact ⟨_, hs'.tail (.leave (htraffic ▸ hi) hend), htraffic, List.mem_cons_self, hambient⟩

/-- What a process does is one of the ways in which it can go: a lookup that nobody interrupts. -/
theorem Reached.resolve {s : Rollout SetupError} (h : Reached k before s) (reg : Registry)
    (resource : Resource) (c : ExporterConfig) (ha : s.ambient = reg.ambient)
    (fresh : ∀ n ∈ s.traffic.log, n.product? ≠ some reg.pipelines.length) :
    ∃ s', Reached k before s' ∧ s.traffic.lookups.length ∈ s'.returned ∧
      s'.traffic.lookups = s.traffic.lookups ++
        [.finished (reg.resolve s.traffic.cache resource c k).1] ∧
      s'.traffic.cache = (reg.resolve s.traffic.cache resource c k).2.1 ∧
      s'.ambient = (reg.resolve s.traffic.cache resource c k).2.2.ambient := by
  have hnew (p : Nat) (hp : (reg.build resource c k).1 = .ok (some p)) :
      p = reg.pipelines.length := by
    obtain ⟨es, hb⟩ := reg.build_eq resource c k
    rw [hb] at hp
    split at hp
    · cases hp
    · cases hp
    · cases hp
      rfl
  obtain ⟨t, ht, hcache, hlookups⟩ := Traffic.exists_perform s.traffic
    ⟨Registry.request c, (reg.build resource c k).1⟩ fun p hp ↦ hnew p hp ▸ fresh
  rw [← reg.resolve_eq_perform] at hcache hlookups
  have hi : t.lookups[s.traffic.lookups.length]? =
      some (.finished (reg.resolve s.traffic.cache resource c k).1) := by
    rw [hlookups]
    simp
  have hcounter : s.counter s.traffic.lookups.length = 0 := by
    by_contra hne
    obtain ⟨chore, hmem⟩ := counter_pos_iff.mp (Nat.pos_of_ne_zero hne)
    obtain ⟨_, _, hl, -⟩ := h.kept.performed _ chore hmem
    exact absurd (List.getElem?_eq_some_iff.mp hl).1 (Nat.lt_irrefl _)
  obtain ⟨s', hs', htraffic, hreturned, hambient⟩ := (h.look ht).finish hi hcounter
  refine ⟨s', hs', hreturned, ?_, ?_, ?_⟩
  · rw [htraffic]
    exact hlookups
  · rw [htraffic]
    exact hcache
  · rw [hambient, reg.ambient_resolve, ← ha]

/-- Two lookups that both have a provider built. The one that was faster has set the default. -/
def overtaken : Rollout Unit where
  traffic := Traffic.contested
  ambient := Ambient.set { tracer := some 7 } .traces 0
  performed := [(0, .announce), (0, .install 0)]
  returned := [0, 1]

theorem reached_overtaken : Reached .traces { tracer := some 7 } overtaken := by
  have looked := Reached.looked .traces { tracer := some 7 } Traffic.reached_contested
  have loser := looked.tail (.leave (i := 1) rfl rfl)
  have installed := loser.tail (.attend (i := 0) rfl rfl)
  have announced := installed.tail (.attend (i := 0) rfl rfl)
  exact announced.tail (.leave (i := 0) rfl rfl)

theorem overtaken_default : Reached .traces { tracer := some 7 } overtaken ∧
    (overtaken.installed.map Prod.snd).count 0 = 1 ∧ 1 ∉ overtaken.installed.map Prod.snd ∧
    overtaken.ambient.slot .traces = some 0 := by
  obtain ⟨once, _, _, lost, _⟩ := reached_overtaken.installs_winners
  refine ⟨reached_overtaken, ?_, ?_, rfl⟩
  · exact once 0 "svc" 0 (by simp [overtaken, Traffic.contested]) (by simp [overtaken])
  · intro hm
    obtain ⟨_, hcl⟩ := lost 1 1 (by simp [overtaken, Traffic.contested]) hm
    cases hcl

end Rollout

end Telemetry
