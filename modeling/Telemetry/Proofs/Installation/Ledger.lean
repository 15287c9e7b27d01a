import Mathlib
import Telemetry.Proofs.Export.Length
import Telemetry.Proofs.Installation.Supply

namespace Telemetry

namespace Pipeline

@[simp] theorem signal_withTracer (p : Pipeline) (t : Tracer) :
    (p.withTracer t).signal = p.signal := by
  unfold withTracer
  split <;> rfl

@[simp] theorem signal_shutdown (p : Pipeline) : p.shutdown.2.signal = p.signal := by
  unfold shutdown
  split
  · rfl
  · cases p.tracer? <;> simp

end Pipeline

namespace Registry

def signals (reg : Registry) : List Signal := reg.pipelines.map (·.signal)

theorem signals_exec (callback : Callback Nat) (ps : List Pipeline) :
    (callback.exec shutdownIn ps).2.map (·.signal) = ps.map (·.signal) := by
  cases callback with
  | other outcome => rfl
  | close k service limit place =>
    simp only [Callback.exec, shutdownIn]
    split
    · rfl
    · rename_i p hp
      obtain ⟨hlt, rfl⟩ := List.getElem?_eq_some_iff.mp hp
      have hlt' : place < (ps.map (·.signal)).length := by simpa using hlt
      have hs : ps[place].signal = (ps.map (·.signal))[place] := by simp
      rw [List.map_set, Pipeline.signal_shutdown, hs, List.set_getElem_self]

end Registry

inductive Deed where
  | install (resource : Resource) (c : ExporterConfig)
  | register (h : Hook (Callback Nat))
  | call (verb : Lifecycle.Verb)

def Deed.perform (reg : Registry) : Deed → Registry
  | install resource c => (Installation.install resource c reg).2
  | register h =>
    { reg with lifecycle := reg.lifecycle.append h }.report (reg.lifecycle.appendEvents h)
  | call verb => (reg.call verb).2

/-- Configurations do not tell the signals apart, and all hooks that shut providers down are those
of installations. -/
def Deed.Fair : Deed → Prop
  | install _ c => Export.Uniform c
  | register h => h.closes = false
  | call _ => True

def Deed.Builds (ids : IdSource) (key : String) : Deed → Prop
  | install resource c => c.serviceName = key ∧ c.isDisabled = false ∧
      ∀ k, ∃ p, Pipeline.made ids resource c k = .ok (some p)
  | _ => False

namespace Registry

def after (start : Registry) (ds : List Deed) : Registry := ds.foldl Deed.perform start

theorem after_append (start : Registry) (first more : List Deed) :
    start.after (first ++ more) = (start.after first).after more := List.foldl_append ..

theorem after_concat (start : Registry) (ds : List Deed) (d : Deed) :
    start.after (ds ++ [d]) = d.perform (start.after ds) := by
  rw [after_append]
  rfl

theorem after_install (start : Registry) (resource : Resource) (c : ExporterConfig) :
    start.after [.install resource c] = (Installation.install resource c start).2 := rfl

end Registry

structure Debut where
  service : String
  traces : Nat
  metrics : Nat
  logs : Nat

namespace Debut

def provider (d : Debut) : Signal → Nat
  | .traces => d.traces
  | .metrics => d.metrics
  | .logs => d.logs

def providers (d : Debut) : List Nat := Signal.all.map d.provider

def hooks (d : Debut) : List (Hook (Callback Nat)) :=
  Signal.all.map fun k ↦ shutdownHook k d.service defaultShutdownLimit (d.provider k)

def opening (service : String) (next : Nat) : Debut := ⟨service, next, next + 1, next + 2⟩

@[simp] theorem opening_service (service : String) (next : Nat) :
    (opening service next).service = service := rfl

@[simp] theorem opening_provider (service : String) (next : Nat) (k : Signal) :
    (opening service next).provider k = next + k.rank := by
  cases k <;> rfl

end Debut

def Deed.debut? (reg : Registry) : Deed → Option Debut
  | install resource c =>
    let now := (install resource c).perform reg
    match reg.live? .traces c.serviceName, now.live? .traces c.serviceName,
      now.live? .metrics c.serviceName, now.live? .logs c.serviceName with
    | none, some traces, some metrics, some logs => some ⟨c.serviceName, traces, metrics, logs⟩
    | _, _, _, _ => none
  | _ => none

/-- The ledger: the services that get providers, in the order in which they do. -/
def ledger (reg : Registry) : List Deed → List Debut
  | [] => []
  | d :: ds => (d.debut? reg).toList ++ ledger (d.perform reg) ds

theorem ledger_append (start : Registry) (first more : List Deed) :
    ledger start (first ++ more) = ledger start first ++ ledger (start.after first) more := by
  induction first generalizing start with
  | nil => rfl
  | cons d ds ih => rw [List.cons_append, ledger, ledger, ih, List.append_assoc]; rfl

theorem ledger_concat (start : Registry) (ds : List Deed) (d : Deed) :
    ledger start (ds ++ [d]) = ledger start ds ++ (d.debut? (start.after ds)).toList := by
  rw [ledger_append]
  simp [ledger]

namespace Registry

theorem closers_engage {reg : Registry} (hcalm : reg.lifecycle.Calm) (k : Signal) (key : String)
    (p : Pipeline) : (reg.engage k key p).lifecycle.Calm ∧
      (reg.engage k key p).lifecycle.closers = reg.lifecycle.closers ++
        [shutdownHook k key defaultShutdownLimit reg.pipelines.length] := by
  refine ⟨?_, Lifecycle.closers_append_of_closes hcalm rfl rfl⟩
  simp only [Lifecycle.Calm, engage, Lifecycle.state_append]
  exact hcalm

theorem closers_engageAll {reg : Registry} (hcalm : reg.lifecycle.Calm) (key : String)
    (p : Signal → Pipeline) : (reg.engageAll key p).lifecycle.closers =
      reg.lifecycle.closers ++ (Debut.opening key reg.pipelines.length).hooks := by
  obtain ⟨hcalm₁, h₁⟩ := closers_engage hcalm .traces key (p .traces)
  obtain ⟨hcalm₂, h₂⟩ := closers_engage hcalm₁ .metrics key (p .metrics)
  obtain ⟨_, h₃⟩ := closers_engage hcalm₂ .logs key (p .logs)
  simp only [engageAll, Signal.all, List.foldl_cons, List.foldl_nil, h₃, h₂, h₁]
  simp [Debut.hooks, Signal.all, Signal.rank]

theorem signals_engageAll (reg : Registry) (key : String) {p : Signal → Pipeline}
    (hp : ∀ k, (p k).signal = k) : (reg.engageAll key p).signals = reg.signals ++ Signal.all := by
  simp [signals, pipelines_engageAll, Function.comp_def, hp]

/-- What a process knows of its providers is what stands in the ledger. -/
structure Booked (start reg : Registry) (book : List Debut) : Prop where
  ids : reg.ids = start.ids
  agreed : ∀ key k k', reg.status k key = reg.status k' key
  live : ∀ k key p, reg.live? k key = some p ↔ ∃ d ∈ book, d.service = key ∧ d.provider k = p
  services : (book.map Debut.service).Nodup
  hooks : reg.lifecycle.closers = book.flatMap Debut.hooks
  slots : ∀ k, reg.ambient.slot k =
    ((book.getLast?.map (·.provider k)) <|> start.ambient.slot k)
  signals : ∀ d ∈ book, ∀ k, reg.signals[d.provider k]? = some k
  ascending : (book.flatMap Debut.providers).Pairwise (· < ·)

namespace Booked

variable {start reg reg' : Registry} {book : List Debut}

theorem empty (hempty : ∀ k, start.caches.get k = {}) (hbare : start.lifecycle.closers = []) :
    Booked start start [] where
  ids := rfl
  agreed key k k' := by rw [status, status, hempty, hempty]
  live k key p := by simp [live?, hempty]
  services := List.nodup_nil
  hooks := hbare
  slots k := by simp
  signals d hd := by cases hd
  ascending := .nil

theorem frame (h : Booked start reg book) (hids : reg'.ids = reg.ids)
    (hcaches : reg'.caches = reg.caches) (hslots : reg'.ambient.slot = reg.ambient.slot)
    (hhooks : reg'.lifecycle.closers = reg.lifecycle.closers)
    (hsignals : reg'.signals = reg.signals) : Booked start reg' book where
  ids := hids.trans h.ids
  agreed key k k' := by simpa only [status, hcaches] using h.agreed key k k'
  live k key p := by simpa only [live?, hcaches] using h.live k key p
  services := h.services
  hooks := hhooks.trans h.hooks
  slots k := by rw [hslots, h.slots]
  signals := by simpa only [hsignals] using h.signals
  ascending := h.ascending

theorem bare (h : Booked start reg book) : ∀ g ∈ reg.lifecycle.closers, g.onStart = none := by
  intro g hg
  rw [h.hooks] at hg
  obtain ⟨d, _, hd⟩ := List.mem_flatMap.mp hg
  obtain ⟨k, _, rfl⟩ := List.mem_map.mp hd
  rfl

theorem provider_lt (h : Booked start reg book) {d : Debut} (hd : d ∈ book) (k : Signal) :
    d.provider k < reg.signals.length := (List.getElem?_eq_some_iff.mp (h.signals d hd k)).1

theorem register (h : Booked start reg book) {hook : Hook (Callback Nat)}
    (hc : hook.closes = false) : Booked start ((Deed.register hook).perform reg) book :=
  h.frame rfl rfl rfl (Lifecycle.closers_append_of_plain _ hc) rfl

-- The hooks in the ledger have no start callbacks, which are all that a start call takes away.
theorem call (h : Booked start reg book) {verb : Lifecycle.Verb}
    (hcalm : ((Deed.call verb).perform reg).lifecycle.Calm) :
    Booked start ((Deed.call verb).perform reg) book :=
  h.frame rfl rfl rfl
    (Lifecycle.closers_runAlone reg.timeouts _ verb _ h.bare hcalm)
    (Lifecycle.surroundings_runAlone (P := fun ps ↦ ps.map (·.signal) = reg.signals) reg.timeouts _
      verb _ (fun k ps hps ↦ (signals_exec k ps).trans hps) rfl)

theorem traced (h : Booked start reg book) : Booked start reg.traced book :=
  h.frame rfl rfl rfl rfl rfl

theorem report (h : Booked start reg book) (es : List Event) :
    Booked start (reg.report es) book :=
  h.frame rfl rfl rfl rfl rfl

theorem deny (h : Booked start reg book) {key : String}
    (hunknown : ∀ k, reg.status k key = none) : Booked start (reg.denyAll key) book where
  ids := h.ids
  agreed key' k k' := by
    rw [status_denyAll, status_denyAll, h.agreed key' k k']
  live k key' p := by
    rw [live?_denyAll, ← h.live]
    split
    · subst key
      have hdead : reg.live? k key' = none := live?_eq_none_of_status (by simp [hunknown])
      simp [hdead]
    · rfl
  services := h.services
  hooks := h.hooks
  slots := h.slots
  signals := h.signals
  ascending := h.ascending

theorem engage (h : Booked start reg book) (hcalm : reg.lifecycle.Calm) {key : String}
    (hdead : ∀ k, reg.live? k key = none) {p : Signal → Pipeline} (hp : ∀ k, (p k).signal = k) :
    Booked start (reg.engageAll key p) (book ++ [.opening key reg.pipelines.length]) where
  ids := h.ids
  agreed key' k k' := by
    rw [status_engageAll, status_engageAll, h.agreed key' k k']
  live k key' q := by
    rw [live?_engageAll]
    simp only [List.mem_append, List.mem_singleton, or_and_right, exists_or, exists_eq_left,
      ← h.live]
    split
    · subst key
      simp [hdead]
    · simp_all
  services := by
    have hnew : key ∉ book.map Debut.service := by
      intro hm
      obtain ⟨d, hd, hs⟩ := List.mem_map.mp hm
      have hlive := (h.live .traces key _).mpr ⟨d, hd, hs, rfl⟩
      rw [hdead] at hlive
      cases hlive
    rw [List.map_append, List.map_singleton, ← List.concat_eq_append]
    exact h.services.concat hnew
  hooks := by
    rw [closers_engageAll hcalm, h.hooks, List.flatMap_append, List.flatMap_singleton]
  slots k := by
    rw [slot_engageAll, List.getLast?_concat]
    simp
  signals d hd k := by
    rw [signals_engageAll reg key hp]
    rcases List.mem_append.mp hd with hold | hnew
    · exact (List.getElem?_append_left (h.provider_lt hold k)).trans (h.signals d hold k)
    · obtain rfl := List.mem_singleton.mp hnew
      rw [Debut.opening_provider, List.getElem?_append_right (by simp [Registry.signals])]
      simp [Registry.signals, Signal.all_rank]
  ascending := by
    rw [List.flatMap_append, List.pairwise_append]
    refine ⟨h.ascending, by simp [Debut.providers, Signal.all, Signal.rank], ?_⟩
    intro q hq q' hq'
    obtain ⟨d, hd, hqd⟩ := List.mem_flatMap.mp hq
    obtain ⟨k, _, rfl⟩ := List.mem_map.mp hqd
    have hlt := h.provider_lt hd k
    simp only [Registry.signals, List.length_map] at hlt
    simp [Debut.providers, Signal.all, Signal.rank] at hq'
    omega

end Booked

section Steps

variable {start reg : Registry} {book : List Debut}

theorem debut?_of_live {resource : Resource} {c : ExporterConfig} {p : Nat}
    (h : reg.live? .traces c.serviceName = some p) :
    (Deed.install resource c).debut? reg = none := by
  simp [Deed.debut?, h]

theorem debut?_of_dead {resource : Resource} {c : ExporterConfig}
    (h : ((Deed.install resource c).perform reg).live? .traces c.serviceName = none) :
    (Deed.install resource c).debut? reg = none := by
  simp only [Deed.debut?, h]
  split <;> simp_all

theorem debut?_of_opening {resource : Resource} {c : ExporterConfig} {next : Nat}
    (hdead : reg.live? .traces c.serviceName = none)
    (hlive : ∀ k, ((Deed.install resource c).perform reg).live? k c.serviceName =
      some (next + k.rank)) :
    (Deed.install resource c).debut? reg = some (.opening c.serviceName next) := by
  simp [Deed.debut?, hdead, hlive, Debut.opening, Signal.rank]

def Entered (start now : Registry) (book book' : List Debut) (d : Deed) : Prop :=
  Booked start now book' ∧ ∀ key, (∃ b ∈ book', b.service = key) ↔
    (∃ b ∈ book, b.service = key) ∨ d.Builds start.ids key

theorem Entered.of_none {d : Deed} (h : Booked start (d.perform reg) book)
    (hd : d.debut? reg = none)
    (hb : ∀ key, d.Builds start.ids key → ∃ b ∈ book, b.service = key) :
    Entered start (d.perform reg) book (book ++ (d.debut? reg).toList) d := by
  rw [hd, Option.toList_none, List.append_nil]
  exact ⟨h, fun key ↦ (or_iff_left_of_imp (hb key)).symm⟩

theorem Booked.step (h : Booked start reg book) {d : Deed} (hfair : d.Fair)
    (hcalm : reg.lifecycle.Calm) (hcalm' : (d.perform reg).lifecycle.Calm) :
    Entered start (d.perform reg) book (book ++ (d.debut? reg).toList) d := by
  cases d with
  | register hook => exact .of_none (h.register hfair) rfl nofun
  | call verb => exact .of_none (h.call hcalm') rfl nofun
  | install resource c =>
    have heffect := Installation.install_effect reg resource
      (fun k k' ↦ h.agreed c.serviceName k k') hfair
    generalize (Installation.install resource c reg).1 = answer at heffect
    generalize hnow : (Installation.install resource c reg).2 = now at heffect
    have hnow : (Deed.install resource c).perform reg = now := hnow
    cases heffect with
    | @found p hlive =>
      refine .of_none (hnow ▸ h.traced) (debut?_of_live (hlive .traces)) ?_
      rintro key ⟨rfl, _⟩
      obtain ⟨b, hb, hs, _⟩ := (h.live .traces _ _).mp (hlive .traces)
      exact ⟨b, hb, hs⟩
    | off hd hk =>
      refine .of_none (hnow ▸ h.traced) (debut?_of_dead ?_) ?_
      · rw [hnow]
        exact live?_eq_none_of_status (by simp [hk])
      · rintro key ⟨_, he, _⟩
        exact absurd (hd.symm.trans he) Bool.noConfusion
    | noted es hd hk =>
      refine .of_none (hnow ▸ ((h.deny hk).traced.report es)) (debut?_of_dead ?_) ?_
      · rw [hnow]
        exact (live?_denyAll reg .traces _ _).trans (if_pos rfl)
      · rintro key ⟨_, he, _⟩
        exact absurd (hd.symm.trans he) Bool.noConfusion
    | failed es hdead he =>
      refine .of_none (hnow ▸ h.report es) (debut?_of_dead ?_) ?_
      · rw [hnow]
        exact hdead .traces
      · rintro key ⟨_, _, hb⟩
        obtain ⟨p, hp⟩ := hb .traces
        rw [← h.ids, he] at hp
        cases hp
    | @made p es hdead hp =>
      -- The only way into the ledger.
      have hd : (Deed.install resource c).debut? reg =
          some (.opening c.serviceName reg.pipelines.length) := by
        refine debut?_of_opening (hdead .traces) fun k ↦ ?_
        rw [hnow]
        exact (live?_engageAll reg k _ _ p).trans (if_pos rfl)
      have hsignals (k : Signal) : (p k).signal = k := Pipeline.signal_of_made (hp k)
      rw [hd, hnow]
      refine ⟨((h.engage hcalm hdead hsignals).traced.report es), fun key ↦ ?_⟩
      have hbuilds : (Deed.install resource c).Builds start.ids key ↔ c.serviceName = key := by
        refine ⟨And.left, fun hkey ↦ ⟨hkey, Pipeline.enabled_of_made (hp .traces), fun k ↦ ?_⟩⟩
        exact ⟨p k, h.ids ▸ hp k⟩
      simp [hbuilds, or_and_right, exists_or]

end Steps

section Histories

variable {start : Registry} {ds : List Deed}

/-- There are no providers at first, and the lifecycle always waits to be started or runs. -/
structure Ordinary (start : Registry) (ds : List Deed) : Prop where
  empty : ∀ k, start.caches.get k = {}
  bare : start.lifecycle.closers = []
  calm : ∀ first, first <+: ds → (start.after first).lifecycle.Calm
  fair : ∀ d ∈ ds, d.Fair

theorem Ordinary.of_prefix {first : List Deed} (h : Ordinary start ds) (hp : first <+: ds) :
    Ordinary start first where
  empty := h.empty
  bare := h.bare
  calm before hb := h.calm before (hb.trans hp)
  fair d hd := h.fair d (hp.subset hd)

theorem Ordinary.entered (h : Ordinary start ds) :
    Booked start (start.after ds) (ledger start ds) ∧
      ∀ key, (∃ b ∈ ledger start ds, b.service = key) ↔ ∃ d ∈ ds, d.Builds start.ids key := by
  induction ds using List.reverseRecOn with
  | nil => exact ⟨.empty h.empty h.bare, by simp [ledger]⟩
  | append_singleton ds d ih =>
    have hp : ds <+: ds ++ [d] := List.prefix_append ds [d]
    obtain ⟨hbooked, hserved⟩ := ih (h.of_prefix hp)
    have hcalm' := h.calm (ds ++ [d]) (List.prefix_refl _)
    rw [after_concat] at hcalm' ⊢
    obtain ⟨hnow, hmore⟩ := hbooked.step (h.fair d (by simp)) (h.calm ds hp) hcalm'
    rw [ledger_concat]
    refine ⟨hnow, fun key ↦ ?_⟩
    rw [hmore, hserved]
    simp [or_and_right, exists_or]

theorem Ordinary.booked (h : Ordinary start ds) : Booked start (start.after ds) (ledger start ds) :=
  h.entered.1

theorem Ordinary.live_mono (h : Ordinary start ds) {first : List Deed} (hp : first <+: ds)
    {k : Signal} {key : String} {p : Nat} (hl : (start.after first).live? k key = some p) :
    (start.after ds).live? k key = some p := by
  obtain ⟨d, hd, hdebut⟩ := ((h.of_prefix hp).booked.live k key p).mp hl
  obtain ⟨more, rfl⟩ := hp
  rw [h.booked.live]
  refine ⟨d, ?_, hdebut⟩
  rw [ledger_append]
  exact List.mem_append_left _ hd

theorem Ordinary.effect (h : Ordinary start ds) {before : List Deed} {resource : Resource}
    {c : ExporterConfig} (hp : before ++ [.install resource c] <+: ds) :
    Installation.Effect resource c (start.after before)
      (Installation.install resource c (start.after before)).1
      (start.after (before ++ [.install resource c])) := by
  have hbefore : before <+: ds := (List.prefix_append before _).trans hp
  have hfair : (Deed.install resource c).Fair := h.fair _ (hp.subset (by simp))
  rw [after_concat]
  exact Installation.install_effect _ resource
    (fun k k' ↦ (h.of_prefix hbefore).booked.agreed c.serviceName k k') hfair

theorem Ordinary.answer (h : Ordinary start ds) {before : List Deed} {resource : Resource}
    {c : ExporterConfig} (hp : before ++ [.install resource c] <+: ds) {i : Installation}
    (hi : (Installation.install resource c (start.after before)).1 = .ok i) :
    (∀ k, i.provider k = none) ∨
      ∀ k, ∃ p, i.provider k = some p ∧ (start.after ds).live? k c.serviceName = some p := by
  have heffect := h.effect hp
  have hmono {k : Signal} {p : Nat} := @Ordinary.live_mono _ _ h _ hp k c.serviceName p
  rw [hi] at heffect
  generalize start.after (before ++ [.install resource c]) = now at heffect hmono
  cases heffect with
  | @found p hlive => exact .inr fun k ↦ ⟨p k, by simp, hmono (hlive k)⟩
  | off | noted => exact .inl fun k ↦ by simp
  | made =>
    refine .inr fun k ↦ ⟨_, Installation.provider_of _ _ _ k, hmono ?_⟩
    exact (live?_engageAll _ k _ _ _).trans (if_pos rfl)

theorem Ordinary.answer_of_live (h : Ordinary start ds) (resource : Resource) (c : ExporterConfig)
    {k : Signal} {p : Nat} (hl : (start.after ds).live? k c.serviceName = some p) :
    ∃ i, (Installation.install resource c (start.after ds)).1 = .ok i ∧
      ∀ k', ∃ p', i.provider k' = some p' ∧
        (start.after ds).live? k' c.serviceName = some p' := by
  have hlive (k' : Signal) : ∃ p', (start.after ds).live? k' c.serviceName = some p' := by
    have hs : (start.after ds).status k c.serviceName = some true := by
      rw [← live?_isSome, hl]
      rfl
    rw [h.booked.agreed _ k k', ← live?_isSome] at hs
    exact Option.isSome_iff_exists.mp hs
  choose q hq using hlive
  rw [Installation.install_of_live hq]
  exact ⟨_, rfl, fun k' ↦ ⟨q k', by simp, hq k'⟩⟩

/-- Telemetry is set up for services, one after another, with any configurations that do not tell
the signals apart. At any time
* the caches of the three signals have the same to say about every service, and a service has
  providers just when there was an installation for it whose providers could be built;
* the lifecycle has a hook for each of these providers and no other one that shuts a provider down,
  in the order in which the providers have been built, which is the order of the signals for each
  service;
* an installation gives its caller all providers of the service or none, and not none if the service
  has providers;
* the defaults are the providers of the service that got its providers last;
* the same installation again comes to the same and changes nothing but what is reported. -/
theorem in_step (h : Ordinary start ds) :
    (∀ key k k', (start.after ds).status k key = (start.after ds).status k' key) ∧
    (∀ key k, (∃ p, (start.after ds).live? k key = some p) ↔ ∃ d ∈ ds, d.Builds start.ids key) ∧
    (start.after ds).lifecycle.closers = (ledger start ds).flatMap Debut.hooks ∧
    ((ledger start ds).map Debut.service).Nodup ∧
    ((ledger start ds).flatMap Debut.providers).Pairwise (· < ·) ∧
    (∀ k key p, (start.after ds).live? k key = some p ↔
      ∃ d ∈ ledger start ds, d.service = key ∧ d.provider k = p) ∧
    (∀ d ∈ ledger start ds, ∀ k, (start.after ds).signals[d.provider k]? = some k) ∧
    (∀ before resource c after i, ds = before ++ .install resource c :: after →
      (Installation.install resource c (start.after before)).1 = .ok i →
      (∀ k, i.provider k = none) ∨
        ∀ k, ∃ p, i.provider k = some p ∧ (start.after ds).live? k c.serviceName = some p) ∧
    (∀ resource c k p, (start.after ds).live? k c.serviceName = some p →
      ∃ i, (Installation.install resource c (start.after ds)).1 = .ok i ∧
        ∀ k', ∃ p', i.provider k' = some p' ∧
          (start.after ds).live? k' c.serviceName = some p') ∧
    (∀ k, (start.after ds).ambient.slot k =
      (((ledger start ds).getLast?.map (·.provider k)) <|> start.ambient.slot k)) ∧
    (∀ before resource c, ds = before ++ [.install resource c] →
      ∃ es, Installation.install resource c (start.after ds) =
        ((Installation.install resource c (start.after before)).1,
          (start.after ds).report es)) := by
  have hb := h.booked
  refine ⟨hb.agreed, fun key k ↦ ?_, hb.hooks, hb.services, hb.ascending, hb.live, hb.signals, ?_,
    fun resource c k p ↦ h.answer_of_live resource c, hb.slots, ?_⟩
  · rw [← h.entered.2 key]
    simp only [hb.live]
    exact ⟨fun ⟨_, d, hd, hs, _⟩ ↦ ⟨d, hd, hs⟩, fun ⟨d, hd, hs⟩ ↦ ⟨_, d, hd, hs, rfl⟩⟩
  · intro before resource c after i he hi
    have hp : before ++ [.install resource c] <+: ds := by
      rw [he]
      exact ⟨after, by simp⟩
    exact h.answer hp hi
  · rintro before resource c rfl
    exact (h.effect (List.prefix_refl _)).again

theorem calm_of_installs (hcalm : start.lifecycle.Calm)
    (hd : ∀ d ∈ ds, ∃ resource c, d = .install resource c) : (start.after ds).lifecycle.Calm := by
  induction ds using List.reverseRecOn with
  | nil => exact hcalm
  | append_singleton ds d ih =>
    obtain ⟨resource, c, rfl⟩ := hd d (by simp)
    have hbefore := ih fun d hm ↦ hd d (List.mem_append_left _ hm)
    rw [after_concat]
    simp only [Lifecycle.Calm, Deed.perform, Installation.state_install]
    exact hbefore

end Histories

def fresh : Registry := { ids := ⟨fun _ ↦ 0, fun _ ↦ 0⟩ }

def ordersResource : Resource := ⟨"orders", "test", []⟩

/-- The lifecycle is started, and a service gets an endpoint after it has been set up without. -/
def belated : List Deed :=
  [.call .start, .install ordersResource (.new "orders"), .install ordersResource (padded 0)]

theorem ordinary_belated : Ordinary fresh belated where
  empty k := by cases k <;> rfl
  bare := rfl
  calm first hp := by
    have started : ((Deed.call .start).perform fresh).lifecycle.Calm := .inr rfl
    rcases List.prefix_cons_iff.mp hp with rfl | ⟨rest, rfl, hr⟩
    · exact .inl rfl
    · have hrest : ∀ d ∈ rest, ∃ resource c, d = .install resource c := by
        intro d hd
        have hm := hr.subset hd
        simp only [List.mem_cons, List.not_mem_nil, or_false] at hm
        rcases hm with rfl | rfl <;> exact ⟨_, _, rfl⟩
      have hcalm := calm_of_installs started hrest
      exact hcalm
  fair d hd := by
    simp only [belated, List.mem_cons, List.not_mem_nil, or_false] at hd
    rcases hd with rfl | rfl | rfl
    · trivial
    · have hfault : Endpoint.base (.new "orders") = .error (.url .emptyHost) := by decide +kernel
      intro u hu
      rw [hfault] at hu
      cases hu
    · exact uniform_padded (by decide)

theorem belated_in_step : Ordinary fresh belated ∧
    ∃ p, (fresh.after belated).live? .metrics "orders" = some p := by
  obtain ⟨_, hlive, _⟩ := in_step ordinary_belated
  refine ⟨ordinary_belated, (hlive "orders" .metrics).mpr ⟨_, List.mem_of_getElem? (i := 2) rfl, ?_⟩⟩
  refine ⟨rfl, isDisabled_padded 0, fun k ↦ ⟨_, (made_padded _ _ 0 k).trans (if_neg ?_)⟩⟩
  cases k <;> decide

/-- A service with an endpoint that spans can be sent to and measurements cannot, since the path of
these is longer by one character. -/
def lopsided : List Deed := [.install ordersResource (padded 65509)]

/-- After the installation for that service there is a provider of spans and none of measurements,
and it is not even noted that there is none. -/
theorem status_lopsided :
    (∀ k, fresh.caches.get k = {}) ∧ fresh.lifecycle.closers = [] ∧
    (∀ first, first <+: lopsided → (fresh.after first).lifecycle.Calm) ∧
    (fresh.after lopsided).status .traces "orders" = some true ∧
    (fresh.after lopsided).status .metrics "orders" = none ∧
    (fresh.after lopsided).status .logs "orders" = none := by
  have htraces := (made_padded fresh.ids ordersResource 65509 .traces).trans
    (if_neg (by rw [utf8ByteSize_path]; decide))
  have hmetrics := (made_padded fresh.ids ordersResource 65509 .metrics).trans
    (if_pos (by rw [utf8ByteSize_path]; decide))
  have hdead (k : Signal) : fresh.live? k (padded 65509).serviceName = none := by
    cases k <;> rfl
  obtain ⟨es, he⟩ := Installation.install_of_half_made hdead htraces hmetrics
  have hstatus (k : Signal) : (fresh.after lopsided).status k "orders" =
      if .traces = k then some true else none := by
    have hnone : fresh.status k "orders" = none := by cases k <;> rfl
    rw [lopsided, after_install, he, status_report, status_engage, serviceName_padded, hnone]
    simp
  refine ⟨fun k ↦ by cases k <;> rfl, rfl, fun first hp ↦ ?_, hstatus _, hstatus _, hstatus _⟩
  have hinstalls : ∀ d ∈ first, ∃ resource c, d = .install resource c := by
    intro d hd
    have hm := hp.subset hd
    rw [lopsided, List.mem_singleton] at hm
    exact ⟨_, _, hm⟩
  exact calm_of_installs (.inl rfl) hinstalls

end Registry

end Telemetry
