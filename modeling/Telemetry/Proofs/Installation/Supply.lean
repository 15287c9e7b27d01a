import Mathlib
import Telemetry.Installation
import Telemetry.Proofs.Export.Agreement
import Telemetry.Proofs.Provider.Closers

namespace Telemetry

open ProviderCache ( entry?)

namespace Caches

theorem get_set (c : Caches) (k k' : Signal) (cache : ProviderCache Nat) :
    (c.set k cache).get k' = if k = k' then cache else c.get k' := by
  cases k <;> cases k' <;> rfl

theorem entry?_set_put (c : Caches) (k k' : Signal) (key key' : String) (value : Option Nat) :
    entry? ((c.set k ((c.get k).put key value)).get k') key' =
      if k = k' ∧ key = key' then some value else entry? (c.get k') key' := by
  rw [get_set]
  by_cases hk : k = k'
  · subst hk
    rw [if_pos rfl, ProviderCache.entry?_put]
    simp only [true_and]
  · rw [if_neg hk, if_neg fun h ↦ hk h.1]

@[simp] theorem set_get (c : Caches) (k : Signal) : c.set k (c.get k) = c := by
  cases k <;> rfl

end Caches

namespace Ambient

def slot (a : Ambient) : Signal → Option Nat
  | .traces => a.tracer
  | .metrics => a.meter
  | .logs => a.logger

theorem slot_set (a : Ambient) (k k' : Signal) (p : Nat) :
    (a.set k p).slot k' = if k = k' then some p else a.slot k' := by
  cases k <;> cases k' <;> rfl

end Ambient

def Signal.rank : Signal → Nat
  | .traces => 0
  | .metrics => 1
  | .logs => 2

theorem Signal.all_rank (k : Signal) : Signal.all[k.rank]? = some k := by
  cases k <;> rfl

def Installation.provider (i : Installation) : Signal → Option Nat
  | .traces => i.traces
  | .metrics => i.metrics
  | .logs => i.logs

namespace Registry

def status (reg : Registry) (k : Signal) (key : String) : Option Bool :=
  Option.map Option.isSome <| entry? (reg.caches.get k) key

def live? (reg : Registry) (k : Signal) (key : String) : Option Nat := (reg.caches.get k).live? key

theorem live?_isSome (reg : Registry) (k : Signal) (key : String) :
    (reg.live? k key).isSome ↔ reg.status k key = some true := by
  unfold live? status ProviderCache.live?
  rcases entry? (reg.caches.get k) key with - | - | p <;> simp

theorem live?_eq_none_of_status {reg : Registry} {k : Signal} {key : String}
    (h : reg.status k key ≠ some true) : reg.live? k key = none := by
  rw [← Option.not_isSome_iff_eq_none, live?_isSome]
  exact h

def deny (reg : Registry) (k : Signal) (key : String) : Registry :=
  { reg with caches := reg.caches.set k ((reg.caches.get k).put key none) }

def enrol (reg : Registry) (k : Signal) (key : String) (p : Pipeline) : Registry :=
  { reg with
    pipelines := reg.pipelines ++ [p]
    caches := reg.caches.set k ((reg.caches.get k).put key (some reg.pipelines.length))
    ambient := reg.ambient.set k reg.pipelines.length }

def engage (reg : Registry) (k : Signal) (key : String) (p : Pipeline) : Registry :=
  { reg.enrol k key p with
    lifecycle := reg.lifecycle.append
      (shutdownHook k key defaultShutdownLimit reg.pipelines.length) }

def traced (reg : Registry) : Registry :=
  { reg with ambient := { reg.ambient with propagator := .traceContext } }

def engageAll (reg : Registry) (key : String) (p : Signal → Pipeline) : Registry :=
  Signal.all.foldl (fun reg k ↦ reg.engage k key (p k)) reg

def denyAll (reg : Registry) (key : String) : Registry :=
  Signal.all.foldl (fun reg k ↦ reg.deny k key) reg

section Report

variable (reg : Registry) (es es' : List Event) (k : Signal) (key : String)

theorem report_nil : reg.report [] = reg := by
  simp [report]

@[simp] theorem report_report : (reg.report es).report es' = reg.report (es ++ es') := by
  simp [report]

@[simp] theorem deny_report : (reg.report es).deny k key = (reg.deny k key).report es := rfl

@[simp] theorem engage_report (p : Pipeline) :
    (reg.report es).engage k key p = (reg.engage k key p).report es := rfl

@[simp] theorem traced_report : (reg.report es).traced = reg.traced.report es := rfl

@[simp] theorem caches_report : (reg.report es).caches = reg.caches := rfl

@[simp] theorem pipelines_report : (reg.report es).pipelines = reg.pipelines := rfl

@[simp] theorem status_traced : reg.traced.status k key = reg.status k key := rfl

@[simp] theorem live?_traced : reg.traced.live? k key = reg.live? k key := rfl

@[simp] theorem status_report : (reg.report es).status k key = reg.status k key := rfl

@[simp] theorem live?_report : (reg.report es).live? k key = reg.live? k key := rfl

end Report

section Views

variable (reg : Registry) (k k' : Signal) (key key' : String) (p : Pipeline)

theorem status_deny : (reg.deny k key).status k' key' =
    if k = k' ∧ key = key' then some false else reg.status k' key' := by
  rw [status, deny, Caches.entry?_set_put]
  split <;> rfl

theorem live?_deny : (reg.deny k key).live? k' key' =
    if k = k' ∧ key = key' then none else reg.live? k' key' := by
  rw [live?, deny, ProviderCache.live?, Caches.entry?_set_put]
  split <;> rfl

theorem status_engage : (reg.engage k key p).status k' key' =
    if k = k' ∧ key = key' then some true else reg.status k' key' := by
  rw [status, engage, enrol, Caches.entry?_set_put]
  split <;> rfl

theorem live?_engage : (reg.engage k key p).live? k' key' =
    if k = k' ∧ key = key' then some reg.pipelines.length else reg.live? k' key' := by
  rw [live?, engage, enrol, ProviderCache.live?, Caches.entry?_set_put]
  split <;> rfl

theorem status_denyAll : (reg.denyAll key).status k key' =
    if key = key' then some false else reg.status k key' := by
  cases k <;> simp [denyAll, Signal.all, status_deny]

theorem live?_denyAll : (reg.denyAll key).live? k key' =
    if key = key' then none else reg.live? k key' := by
  cases k <;> simp [denyAll, Signal.all, live?_deny]

@[simp] theorem pipelines_engage : (reg.engage k key p).pipelines = reg.pipelines ++ [p] := rfl

theorem live?_engageAll (p : Signal → Pipeline) : (reg.engageAll key p).live? k key' =
    if key = key' then some (reg.pipelines.length + k.rank) else reg.live? k key' := by
  cases k <;> simp [engageAll, Signal.all, live?_engage, Signal.rank]

theorem slot_engageAll (p : Signal → Pipeline) : (reg.engageAll key p).ambient.slot k =
    some (reg.pipelines.length + k.rank) := by
  cases k <;> simp [engageAll, Signal.all, engage, enrol, Ambient.slot_set, Signal.rank]

theorem pipelines_engageAll (p : Signal → Pipeline) :
    (reg.engageAll key p).pipelines = reg.pipelines ++ Signal.all.map p := by
  simp [engageAll, Signal.all]

theorem status_engageAll (p : Signal → Pipeline) : (reg.engageAll key p).status k key' =
    if key = key' then some true else reg.status k key' := by
  cases k <;> simp [engageAll, Signal.all, status_engage]

end Views

section Lookup

variable {resource : Resource} {c : ExporterConfig} {k : Signal} {reg : Registry}

theorem build_eq (reg : Registry) (resource : Resource) (c : ExporterConfig) (k : Signal) :
    ∃ es, reg.build resource c k = match Pipeline.made reg.ids resource c k with
      | .error e => (.error e, reg.report es)
      | .ok none => (.ok none, reg.report es)
      | .ok (some p) => (.ok (some reg.pipelines.length), (reg.add p).2.report es) := by
  obtain ⟨es, hrun⟩ := (Pipeline.steady_build reg.ids resource c k).run_eq reg.events
  rw [← Pipeline.made] at hrun
  refine ⟨es, ?_⟩
  simp only [Registry.build, hrun]
  split <;> simp_all [Registry.report, Registry.add]

theorem bind_none (reg : Registry) (key : String) (k : Signal) (o : Origin) :
    reg.bind key k ⟨none, o⟩ = (false, reg) := by
  simp [Registry.bind, bindingHook?, Resolved.isNew]

theorem bind_created (reg : Registry) (key : String) (k : Signal) (p : Nat) :
    reg.bind key k ⟨some p, .created⟩ =
      (true, { reg with
        lifecycle := reg.lifecycle.append (shutdownHook k key defaultShutdownLimit p) }.report
          (reg.lifecycle.appendEvents (shutdownHook k key defaultShutdownLimit p))) := rfl

theorem settle_of_vacant {cache : ProviderCache Nat} {r : ProviderCache.Request}
    (candidate : Option Nat) (h : entry? cache r.key = none) :
    cache.settle r candidate = ⟨cache.put r.key candidate, ⟨candidate, .created⟩, none⟩ := by
  simp only [ProviderCache.settle, h]

/-- Neither nothing nor a note that export is off keeps a provider out. -/
theorem settle_of_dead {cache : ProviderCache Nat} {r : ProviderCache.Request} (place : Nat)
    (h : cache.live? r.key = none) (he : r.enables = true) :
    cache.settle r (some place) =
      ⟨cache.put r.key (some place), ⟨some place, .created⟩, none⟩ := by
  unfold ProviderCache.live? at h
  rcases hr : entry? cache r.key with - | - | p
  · exact settle_of_vacant _ hr
  · simp [ProviderCache.settle, hr, he]
  · rw [hr] at h
    cases h

theorem hit?_of_dead {cache : ProviderCache Nat} {r : ProviderCache.Request}
    (h : cache.live? r.key = none) (he : r.enables = true) : cache.hit? r = none := by
  unfold ProviderCache.live? at h
  rcases hr : entry? cache r.key with - | - | p
  · simp only [ProviderCache.hit?, hr]
  · simp [ProviderCache.hit?, hr, he]
  · rw [hr] at h
    cases h

theorem enables_of_made {ids : IdSource} (h : Pipeline.made ids resource c k ≠ .ok none) :
    (request c).enables = true := by
  cases hd : c.isDisabled with
  | false => simp [request, hd]
  | true => exact absurd (Pipeline.made_of_disabled hd) h

theorem lifecycle_conclude (reg : Registry) (c : ExporterConfig) (k : Signal)
    (s : ProviderCache.Settled Nat) : (reg.conclude c k s).lifecycle = reg.lifecycle := by
  unfold conclude
  cases s.discarded <;> rfl

theorem lifecycle_attend (reg : Registry) (c : ExporterConfig) (k : Signal) (chore : Chore) :
    (reg.attend c k chore).lifecycle = reg.lifecycle := by
  cases chore <;> rfl

theorem lifecycle_foldl_attend (reg : Registry) (c : ExporterConfig) (k : Signal)
    (chores : List Chore) : (chores.foldl (attend c k) reg).lifecycle = reg.lifecycle := by
  induction chores generalizing reg with
  | nil => rfl
  | cons chore chores ih => exact (ih _).trans (lifecycle_attend reg c k chore)

theorem lifecycle_provider (reg : Registry) (resource : Resource) (c : ExporterConfig)
    (k : Signal) : (reg.provider resource c k).2.lifecycle = reg.lifecycle := by
  obtain ⟨es, hb⟩ := reg.build_eq resource c k
  simp only [Registry.provider, resolve]
  cases (reg.caches.get k).hit? (request c) with
  | some found => exact lifecycle_foldl_attend _ _ _ _
  | none =>
    rw [hb]
    rcases Pipeline.made reg.ids resource c k with e | - | p
    · rfl
    all_goals exact (lifecycle_foldl_attend _ _ _ _).trans (lifecycle_conclude _ _ _ _)

theorem state_bind (reg : Registry) (key : String) (k : Signal) (r : Resolved Nat) :
    (reg.bind key k r).2.lifecycle.state = reg.lifecycle.state := by
  unfold Registry.bind
  split
  · rfl
  · exact Lifecycle.state_append _ _

end Lookup

end Registry

namespace Installation

open Registry

variable {resource : Resource} {c : ExporterConfig} {k : Signal} {reg : Registry}

theorem state_provide (resource : Resource) (c : ExporterConfig) (k : Signal) (reg : Registry) :
    (provide resource c k reg).2.lifecycle.state = reg.lifecycle.state := by
  have hl := lifecycle_provider reg resource c k
  unfold provide
  split
  · next e now he =>
    rw [he] at hl
    exact congrArg Lifecycle.state hl
  · next found now he =>
    rw [he] at hl
    exact (state_bind now _ k found).trans (congrArg Lifecycle.state hl)

theorem state_install (resource : Resource) (c : ExporterConfig) (reg : Registry) :
    (install resource c reg).2.lifecycle.state = reg.lifecycle.state := by
  have ht := state_provide resource c .traces reg
  unfold install
  split
  · next he => rwa [he] at ht
  · next reg₁ he =>
    rw [he] at ht
    have hm := state_provide resource c .metrics reg₁
    split
    · next he => exact (he ▸ hm).trans ht
    · next reg₂ he =>
      rw [he] at hm
      have hl := state_provide resource c .logs reg₂
      split
      · next he => exact ((he ▸ hl).trans hm).trans ht
      · next he => exact ((he ▸ hl).trans hm).trans ht

theorem provide_of_hit {found : Option Nat}
    (h : (reg.caches.get k).hit? (request c) = some ⟨found, .cached⟩) :
    provide resource c k reg = (.ok found, reg) := by
  have hp : reg.provider resource c k = (.ok ⟨found, .cached⟩, reg) := by
    simp [Registry.provider, resolve, h, Resolved.chores, Resolved.isNew]
  rw [provide, hp]
  rfl

theorem provide_of_error (hv : reg.live? k c.serviceName = none) {e : SetupError}
    (he : Pipeline.made reg.ids resource c k = .error e) :
    ∃ es, provide resource c k reg = (.error e, reg.report es) := by
  have hm := hit?_of_dead (r := request c) hv (enables_of_made (by rw [he]; nofun))
  obtain ⟨es, hb⟩ := reg.build_eq resource c k
  rw [he] at hb
  refine ⟨es, ?_⟩
  have hp : reg.provider resource c k = (.error e, reg.report es) := by
    simp only [Registry.provider, resolve, hm, hb, caches_report, Caches.set_get]
    rfl
  rw [provide, hp]

theorem provide_of_disabled (hv : entry? (reg.caches.get k) c.serviceName = none)
    (hd : c.isDisabled = true) :
    ∃ es, provide resource c k reg = (.ok none, (reg.deny k c.serviceName).report es) := by
  have hm : (reg.caches.get k).hit? (request c) = none := by
    simp only [ProviderCache.hit?, request, hv]
  obtain ⟨es, hb⟩ := reg.build_eq resource c k
  rw [Pipeline.made_of_disabled hd] at hb
  refine ⟨es ++ [], ?_⟩
  have hs := settle_of_vacant (r := request c) none hv
  have hp : reg.provider resource c k =
      (.ok ⟨none, .created⟩, (reg.deny k c.serviceName).report (es ++ [])) := by
    simp only [Registry.provider, resolve, hm, hb, hs, conclude, Resolved.chores, Resolved.isNew]
    rw [report_report]
    rfl
  rw [provide, hp]
  simp only [bind_none]

theorem provide_of_made (hv : reg.live? k c.serviceName = none) {p : Pipeline}
    (hp : Pipeline.made reg.ids resource c k = .ok (some p)) :
    ∃ es, provide resource c k reg =
      (.ok (some reg.pipelines.length), (reg.engage k c.serviceName p).report es) := by
  have he : (request c).enables = true := enables_of_made (by rw [hp]; nofun)
  have hm := hit?_of_dead (r := request c) hv he
  have hs := settle_of_dead (r := request c) reg.pipelines.length hv he
  obtain ⟨es, hb⟩ := reg.build_eq resource c k
  rw [hp] at hb
  obtain ⟨es', hprov⟩ : ∃ es', reg.provider resource c k =
      (.ok ⟨some reg.pipelines.length, .created⟩, (reg.enrol k c.serviceName p).report es') := by
    refine ⟨es ++ ProviderCache.Settled.events ⟨(reg.caches.get k).put c.serviceName
      (some reg.pipelines.length), ⟨some reg.pipelines.length, .created⟩, none⟩ k (request c) ++
      [created c k], ?_⟩
    simp only [Registry.provider, resolve, hm, hb, hs, conclude]
    simp [Resolved.chores, attend, Ambient.after, Registry.report, Registry.add, Resolved.isNew,
      request, enrol]
  rw [provide, hprov]
  simp only [bind_created]
  exact ⟨_, congrArg (Prod.mk _) (report_report (reg.engage k c.serviceName p) es' _)⟩

def of (resource : Resource) (found : Signal → Option Nat) (a : Ambient) : Installation :=
  { resource := some resource
    traces := found .traces
    metrics := found .metrics
    logs := found .logs
    tracer := found .traces <|> a.tracer }

@[simp] theorem provider_of (resource : Resource) (found : Signal → Option Nat) (a : Ambient)
    (k : Signal) : (of resource found a).provider k = found k := by
  cases k <;> rfl

theorem install_of_provided {reg₁ reg₂ reg₃ : Registry} (found : Signal → Option Nat)
    (ht : provide resource c .traces reg = (.ok (found .traces), reg₁))
    (hm : provide resource c .metrics reg₁ = (.ok (found .metrics), reg₂))
    (hl : provide resource c .logs reg₂ = (.ok (found .logs), reg₃)) :
    install resource c reg = (.ok (of resource found reg₃.ambient), reg₃.traced) := by
  simp only [install, ht, hm, hl]
  rfl

theorem install_of_live {p : Signal → Nat} (h : ∀ k, reg.live? k c.serviceName = some (p k)) :
    install resource c reg = (.ok (of resource (fun k ↦ some (p k)) reg.ambient), reg.traced) := by
  have hit (k : Signal) : provide resource c k reg = (.ok (some (p k)), reg) :=
    provide_of_hit (ProviderCache.hit?_of_live (ProviderCache.live?_eq_some_iff.mp (h k)))
  exact install_of_provided (fun k ↦ some (p k)) (hit .traces) (hit .metrics) (hit .logs)

theorem install_of_off (hd : c.isDisabled = true)
    (hk : ∀ k, reg.status k c.serviceName = some false) :
    install resource c reg = (.ok (of resource (fun _ ↦ none) reg.ambient), reg.traced) := by
  have hit (k : Signal) : provide resource c k reg = (.ok none, reg) := by
    apply provide_of_hit
    obtain ⟨entry, he, hn⟩ := Option.map_eq_some_iff.mp (hk k)
    obtain rfl : entry = none := by simpa using hn
    simp [ProviderCache.hit?, request, he, hd]
  exact install_of_provided (fun _ ↦ none) (hit .traces) (hit .metrics) (hit .logs)

theorem install_of_unknown (resource : Resource) (hd : c.isDisabled = true)
    (hk : ∀ k, reg.status k c.serviceName = none) :
    ∃ es, install resource c reg = (.ok (of resource (fun _ ↦ none) reg.ambient),
      (reg.denyAll c.serviceName).traced.report es) := by
  have denied (reg : Registry) (k : Signal) (hk : reg.status k c.serviceName = none) :
      ∃ es, provide resource c k reg = (.ok none, (reg.deny k c.serviceName).report es) :=
    provide_of_disabled (by simpa [status] using hk) hd
  obtain ⟨es₁, h₁⟩ := denied reg .traces (hk _)
  obtain ⟨es₂, h₂⟩ := denied ((reg.deny .traces c.serviceName).report es₁) .metrics
    (by simp [status_deny, hk])
  obtain ⟨es₃, h₃⟩ := denied ((((reg.deny .traces c.serviceName).report es₁).deny .metrics
    c.serviceName).report es₂) .logs (by simp [status_deny, hk])
  refine ⟨es₁ ++ es₂ ++ es₃, ?_⟩
  rw [install_of_provided (fun _ ↦ none) h₁ h₂ h₃]
  simp only [deny_report, report_report, traced_report]
  rfl

theorem install_of_error {e : SetupError} (hdead : reg.live? .traces c.serviceName = none)
    (he : Pipeline.made reg.ids resource c .traces = .error e) :
    ∃ es, install resource c reg = (.error e, reg.report es) := by
  obtain ⟨es, h⟩ := provide_of_error hdead he
  exact ⟨es, by simp only [install, h]⟩

theorem install_of_made {p : Signal → Pipeline} (hdead : ∀ k, reg.live? k c.serviceName = none)
    (hp : ∀ k, Pipeline.made reg.ids resource c k = .ok (some (p k))) :
    ∃ es, install resource c reg =
      (.ok (of resource (fun k ↦ some (reg.pipelines.length + k.rank))
        (reg.engageAll c.serviceName p).ambient),
      (reg.engageAll c.serviceName p).traced.report es) := by
  -- Every lookup finds another registry, in which the caches of the other signals are the same.
  have engaged (now : Registry) (k : Signal) (hids : now.ids = reg.ids)
      (hdead : now.live? k c.serviceName = none) : ∃ es, provide resource c k now =
        (.ok (some now.pipelines.length), (now.engage k c.serviceName (p k)).report es) :=
    provide_of_made hdead (hids ▸ hp k)
  obtain ⟨es₁, h₁⟩ := engaged reg .traces rfl (hdead _)
  obtain ⟨es₂, h₂⟩ := engaged ((reg.engage .traces c.serviceName (p .traces)).report es₁) .metrics
    rfl (by simp [live?_engage, hdead])
  obtain ⟨es₃, h₃⟩ := engaged ((((reg.engage .traces c.serviceName (p .traces)).report es₁).engage
    .metrics c.serviceName (p .metrics)).report es₂) .logs rfl (by simp [live?_engage, hdead])
  simp only [engage_report, report_report, pipelines_report, pipelines_engage, List.length_append,
    List.length_singleton] at h₂ h₃
  refine ⟨es₁ ++ es₂ ++ es₃, ?_⟩
  exact install_of_provided (fun k ↦ some (reg.pipelines.length + k.rank)) h₁ h₂ h₃

/-- When providers can be built for the first signal but not for the second one, the first one
stays. -/
theorem install_of_half_made {p : Pipeline} {e : SetupError}
    (hdead : ∀ k, reg.live? k c.serviceName = none)
    (hp : Pipeline.made reg.ids resource c .traces = .ok (some p))
    (he : Pipeline.made reg.ids resource c .metrics = .error e) :
    ∃ es, install resource c reg = (.error e, (reg.engage .traces c.serviceName p).report es) := by
  obtain ⟨es₁, h₁⟩ := provide_of_made (hdead .traces) hp
  have hdead' : ((reg.engage .traces c.serviceName p).report es₁).live? .metrics c.serviceName =
      none := by simp [live?_engage, hdead]
  obtain ⟨es₂, h₂⟩ := provide_of_error hdead' he
  refine ⟨es₁ ++ es₂, ?_⟩
  simp only [install, h₁, h₂, report_report]

inductive Effect (resource : Resource) (c : ExporterConfig) (reg : Registry) :
    Except SetupError Installation → Registry → Prop
  | found {p : Signal → Nat} (live : ∀ k, reg.live? k c.serviceName = some (p k)) :
      Effect resource c reg (.ok (of resource (fun k ↦ some (p k)) reg.ambient)) reg.traced
  | off (disabled : c.isDisabled = true)
      (known : ∀ k, reg.status k c.serviceName = some false) :
      Effect resource c reg (.ok (of resource (fun _ ↦ none) reg.ambient)) reg.traced
  | noted (es : List Event) (disabled : c.isDisabled = true)
      (unknown : ∀ k, reg.status k c.serviceName = none) :
      Effect resource c reg (.ok (of resource (fun _ ↦ none) reg.ambient))
        ((reg.denyAll c.serviceName).traced.report es)
  | failed {e : SetupError} (es : List Event) (dead : ∀ k, reg.live? k c.serviceName = none)
      (error : Pipeline.made reg.ids resource c .traces = .error e) :
      Effect resource c reg (.error e) (reg.report es)
  | made {p : Signal → Pipeline} (es : List Event)
      (dead : ∀ k, reg.live? k c.serviceName = none)
      (built : ∀ k, Pipeline.made reg.ids resource c k = .ok (some (p k))) :
      Effect resource c reg (.ok (of resource (fun k ↦ some (reg.pipelines.length + k.rank))
          (reg.engageAll c.serviceName p).ambient))
        ((reg.engageAll c.serviceName p).traced.report es)

theorem install_effect (reg : Registry) (resource : Resource)
    (hagreed : ∀ k k', reg.status k c.serviceName = reg.status k' c.serviceName)
    (huniform : Export.Uniform c) :
    Effect resource c reg (install resource c reg).1 (install resource c reg).2 := by
  by_cases hlive : reg.status .traces c.serviceName = some true
  · have live (k : Signal) : ∃ p, reg.live? k c.serviceName = some p := by
      rw [hagreed .traces k, ← live?_isSome] at hlive
      exact Option.isSome_iff_exists.mp hlive
    choose p hp using live
    rw [install_of_live hp]
    exact .found hp
  have dead (k : Signal) : reg.live? k c.serviceName = none :=
    live?_eq_none_of_status (by rwa [hagreed k .traces])
  cases hd : c.isDisabled with
  | true =>
    rcases hs : reg.status .traces c.serviceName with - | - | -
    · have hk (k : Signal) : reg.status k c.serviceName = none := by rw [← hagreed .traces k, hs]
      obtain ⟨es, he⟩ := install_of_unknown resource hd hk
      rw [he]
      exact .noted es hd hk
    · have hk (k : Signal) : reg.status k c.serviceName = some false := by
        rw [← hagreed .traces k, hs]
      rw [install_of_off hd hk]
      exact .off hd hk
    · exact absurd hs hlive
  | false =>
    rcases Pipeline.made_of_enabled reg.ids resource .traces hd with
      ⟨p, hp, _⟩ | ⟨e, he⟩
    · choose p hp using Pipeline.made_congr huniform hp
      obtain ⟨es, he⟩ := install_of_made dead hp
      rw [he]
      exact .made es dead hp
    · obtain ⟨es, hi⟩ := install_of_error (dead .traces) he
      rw [hi]
      exact .failed es dead he

theorem Effect.again {answer : Except SetupError Installation} {reg' : Registry}
    (h : Effect resource c reg answer reg') :
    ∃ es, install resource c reg' = (answer, reg'.report es) := by
  cases h with
  | found hlive =>
    refine ⟨[], ?_⟩
    have hlive' (k : Signal) : reg.traced.live? k c.serviceName = some _ := hlive k
    rw [install_of_live hlive', report_nil]
    rfl
  | off hd hk =>
    refine ⟨[], ?_⟩
    have hk' (k : Signal) : reg.traced.status k c.serviceName = some false := hk k
    rw [install_of_off hd hk', report_nil]
    rfl
  | noted es hd =>
    refine ⟨[], ?_⟩
    have hk (k : Signal) : ((reg.denyAll c.serviceName).traced.report es).status k
        c.serviceName = some false := (status_denyAll reg k _ _).trans (if_pos rfl)
    rw [install_of_off hd hk, report_nil]
    rfl
  | failed es hdead he =>
    have hdead' : (reg.report es).live? .traces c.serviceName = none := hdead .traces
    exact install_of_error hdead' he
  | @made p es hdead hp =>
    refine ⟨[], ?_⟩
    have hlive (k : Signal) : ((reg.engageAll c.serviceName p).traced.report es).live? k
        c.serviceName = some (reg.pipelines.length + k.rank) :=
      (live?_engageAll reg k _ _ p).trans (if_pos rfl)
    rw [install_of_live hlive, report_nil]
    rfl

end Installation

end Telemetry
