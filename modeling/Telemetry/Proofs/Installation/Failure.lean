import Mathlib
import Telemetry.Proofs.Export.Length
import Telemetry.Proofs.Installation.Supply

namespace Telemetry

namespace Export

variable {c : ExporterConfig} {k : Signal}

theorem unprepared_congr {e : SetupError} (h : outcome (prepare c k) = .error e) (k' : Signal) :
    ∃ e', outcome (prepare c k') = .error e' := by
  cases h' : outcome (prepare c k') with
  | error e' => exact ⟨e', rfl⟩
  | ok ready =>
    obtain ⟨base, _, hready⟩ := prepare_congr h'
    rw [hready k] at h
    cases h

/-- Whatever can be prepared can be sent to. -/
def Sendable (c : ExporterConfig) : Prop :=
  ∀ k u client, outcome (prepare c k) = .ok (u, client) → refusal? u = none

end Export

namespace Pipeline

variable {c : ExporterConfig} {k : Signal}

theorem made_of_unprepared (ids : IdSource) (resource : Resource) (hd : c.isDisabled = false)
    {e : SetupError} (he : outcome (Export.prepare c k) = .error e) :
    made ids resource c k = .error e := by
  rw [made_eq, hd, he]
  rfl

theorem made_ne_error (ids : IdSource) (resource : Resource) {u : Url} {client : Export.Client}
    (hu : outcome (Export.prepare c k) = .ok (u, client)) (hr : Export.refusal? u = none)
    (e : SetupError) : made ids resource c k ≠ .error e := by
  rw [made_eq, hu]
  split
  · nofun
  · simp [ofPrepared, hr]

end Pipeline

namespace Installation

open Registry

variable {resource : Resource} {c : ExporterConfig} {k : Signal} {reg : Registry}

theorem provide_ne_error (h : ∀ ids e, Pipeline.made ids resource c k ≠ .error e)
    (reg : Registry) : ∃ found reg', provide resource c k reg = (.ok found, reg') := by
  obtain ⟨es, hb⟩ := reg.build_eq resource c k
  unfold provide Registry.provider resolve
  cases (reg.caches.get k).hit? (request c) with
  | some found => exact ⟨_, _, rfl⟩
  | none =>
    rw [hb]
    rcases hm : Pipeline.made reg.ids resource c k with e | - | p
    · exact absurd hm (h reg.ids e)
    · exact ⟨_, _, rfl⟩
    · exact ⟨_, _, rfl⟩

theorem install_ne_error (h : ∀ k ids e, Pipeline.made ids resource c k ≠ .error e)
    (reg : Registry) (e : SetupError) : (install resource c reg).1 ≠ .error e := by
  obtain ⟨traces, reg₁, h₁⟩ := provide_ne_error (h .traces) reg
  obtain ⟨metrics, reg₂, h₂⟩ := provide_ne_error (h .metrics) reg₁
  obtain ⟨logs, reg₃, h₃⟩ := provide_ne_error (h .logs) reg₂
  simp only [install, h₁, h₂, h₃]
  intro h
  cases h

theorem provide_of_live {p : Nat} (h : reg.live? k c.serviceName = some p) :
    provide resource c k reg = (.ok (some p), reg) := by
  apply provide_of_hit
  exact ProviderCache.hit?_of_live (ProviderCache.live?_eq_some_iff.mp h)

theorem install_of_unprepared (resource : Resource) (hd : c.isDisabled = false) {e : SetupError}
    (he : outcome (Export.prepare c k) = .error e) (hk : reg.live? k c.serviceName = none)
    (hfirst : ∀ k', k'.rank < k.rank → reg.live? k' c.serviceName ≠ none) :
    ∃ es, install resource c reg = (.error e, reg.report es) := by
  obtain ⟨es, hfail⟩ := provide_of_error hk (Pipeline.made_of_unprepared reg.ids resource hd he)
  have found (k' : Signal) (hlt : k'.rank < k.rank) :
      ∃ p, provide resource c k' reg = (.ok (some p), reg) := by
    obtain ⟨p, hp⟩ := Option.ne_none_iff_exists'.mp (hfirst k' hlt)
    exact ⟨p, provide_of_live hp⟩
  refine ⟨es, ?_⟩
  cases k with
  | traces => simp only [install, hfail]
  | metrics =>
    obtain ⟨p, hp⟩ := found .traces (by decide)
    simp only [install, hp, hfail]
  | logs =>
    obtain ⟨p, hp⟩ := found .traces (by decide)
    obtain ⟨q, hq⟩ := found .metrics (by decide)
    simp only [install, hp, hq, hfail]

theorem exists_first_lacking {key : String} (h : ∃ k, reg.live? k key = none) :
    ∃ k, reg.live? k key = none ∧ ∀ k', k'.rank < k.rank → reg.live? k' key ≠ none := by
  obtain ⟨k, hk, hmin⟩ :=
    WellFounded.has_min (measure Signal.rank).wf {k | reg.live? k key = none} h
  exact ⟨k, hk, fun k' hlt hk' ↦ hmin k' hk' hlt⟩

/-- An installation succeeds as a whole or leaves nothing behind. It fails just when there is an
endpoint for which no exporter can be prepared and a signal for which the service has no provider
yet. What is wrong is what is wrong with the first such signal, and only what has been reported is
different afterwards. -/
theorem all_or_nothing (hsend : Export.Sendable c) (resource : Resource) (reg : Registry) :
    ((∃ e, (install resource c reg).1 = .error e) ↔
      Text.isBlankText c.endpoint = false ∧ (∃ k e, outcome (Export.prepare c k) = .error e) ∧
        ∃ k, reg.live? k c.serviceName = none) ∧
    ((∃ k e, outcome (Export.prepare c k) = .error e) →
      ∀ k, ∃ e, outcome (Export.prepare c k) = .error e) ∧
    ∀ e, (install resource c reg).1 = .error e →
      (∃ k, reg.live? k c.serviceName = none ∧
        (∀ k', k'.rank < k.rank → reg.live? k' c.serviceName ≠ none) ∧
        outcome (Export.prepare c k) = .error e) ∧
      ∃ es, (install resource c reg).2 = reg.report es := by
  have everywhere : (∃ k e, outcome (Export.prepare c k) = .error e) →
      ∀ k, ∃ e, outcome (Export.prepare c k) = .error e := by
    rintro ⟨k, e, he⟩ k'
    exact Export.unprepared_congr he k'
  have fails (hd : c.isDisabled = false) (hbad : ∃ k e, outcome (Export.prepare c k) = .error e)
      (hdead : ∃ k, reg.live? k c.serviceName = none) :
      ∃ k e es, reg.live? k c.serviceName = none ∧
        (∀ k', k'.rank < k.rank → reg.live? k' c.serviceName ≠ none) ∧
        outcome (Export.prepare c k) = .error e ∧
        install resource c reg = (.error e, reg.report es) := by
    obtain ⟨k, hk, hfirst⟩ := exists_first_lacking hdead
    obtain ⟨e, he⟩ := everywhere hbad k
    obtain ⟨es, hi⟩ := install_of_unprepared resource hd he hk hfirst
    exact ⟨k, e, es, hk, hfirst, he, hi⟩
  have conditions (e : SetupError) (hi : (install resource c reg).1 = .error e) :
      c.isDisabled = false ∧ (∃ k e, outcome (Export.prepare c k) = .error e) ∧
        ∃ k, reg.live? k c.serviceName = none := by
    refine ⟨?_, ?_, ?_⟩
    · by_contra hd
      refine absurd hi (install_ne_error (fun k ids e ↦ ?_) reg e)
      rw [Pipeline.made_of_disabled (by simpa using hd)]
      nofun
    · by_contra! hgood
      refine absurd hi (install_ne_error (fun k ids e ↦ ?_) reg e)
      cases hp : outcome (Export.prepare c k) with
      | error e' => exact absurd hp (hgood k e')
      | ok ready => exact Pipeline.made_ne_error ids resource hp (hsend k _ _ hp) e
    · by_contra! hlive
      have live (k : Signal) : ∃ p, reg.live? k c.serviceName = some p :=
        Option.ne_none_iff_exists'.mp (hlive k)
      choose p hp using live
      rw [install_of_live hp] at hi
      cases hi
  refine ⟨⟨fun ⟨e, hi⟩ ↦ conditions e hi, ?_⟩, everywhere, ?_⟩
  · rintro ⟨hd, hbad, hdead⟩
    obtain ⟨k, e, es, _, _, _, hi⟩ := fails hd hbad hdead
    exact ⟨e, by rw [hi]⟩
  · intro e hi
    obtain ⟨hd, hbad, hdead⟩ := conditions e hi
    obtain ⟨k, e', es, hk, hfirst, he, hinstall⟩ := fails hd hbad hdead
    rw [hinstall] at hi ⊢
    cases hi
    exact ⟨⟨k, hk, hfirst, he⟩, es, rfl⟩

def hostless : ExporterConfig := { serviceName := "orders", endpoint := "http://" }

def partlyServed : Registry where
  ids := ⟨fun _ ↦ 0, fun _ ↦ 0⟩
  caches := { traces := ⟨[("orders", some 0)]⟩, metrics := ⟨[("orders", none)]⟩ }

theorem prepare_hostless (k : Signal) : outcome (Export.prepare hostless k) =
    .error (.exporter k (.endpoint "http://" (.url .emptyHost))) := by
  have hbase : Endpoint.base hostless = .error (.url .emptyHost) := by decide +kernel
  have hvalid : hostless.validate = .ok () := by decide
  have htrim : Text.trim hostless.endpoint = "http://" := by decide
  simp [Export.prepare, hvalid, Export.endpoint, Endpoint.url, hbase, htrim, Except.map,
    Except.mapError]

theorem sendable_padded : Export.Sendable (padded 0) := by
  intro k u client hu
  rw [outcome_prepare_padded] at hu
  cases hu
  cases k <;> decide +kernel

/-- Without a host the installation ends at the measurements, with one it succeeds. -/
theorem hostless_leaves_nothing :
    (Export.Sendable hostless ∧
      (install ⟨"orders", "test", []⟩ hostless partlyServed).1 =
        .error (.exporter .metrics (.endpoint "http://" (.url .emptyHost))) ∧
      ∃ es, (install ⟨"orders", "test", []⟩ hostless partlyServed).2 = partlyServed.report es) ∧
    Export.Sendable (padded 0) ∧
      ¬ ∃ e, (install ⟨"orders", "test", []⟩ (padded 0) partlyServed).1 = .error e := by
  have hsend : Export.Sendable hostless := by
    intro k u client hu
    rw [prepare_hostless] at hu
    cases hu
  have hmetrics : partlyServed.live? .metrics hostless.serviceName = none := rfl
  obtain ⟨hfails, _, hleaves⟩ := all_or_nothing hsend ⟨"orders", "test", []⟩ partlyServed
  obtain ⟨e, he⟩ := hfails.mpr
    ⟨by decide, ⟨.metrics, _, prepare_hostless _⟩, ⟨.metrics, hmetrics⟩⟩
  obtain ⟨⟨k, hk, hfirst, hp⟩, hsame⟩ := hleaves e he
  refine ⟨⟨hsend, ?_, hsame⟩, sendable_padded, fun hi ↦ ?_⟩
  · rw [prepare_hostless] at hp
    cases hp
    cases k with
    | traces => cases hk
    | metrics => exact he
    | logs => exact absurd hmetrics (hfirst .metrics (by decide))
  · have hgood := all_or_nothing sendable_padded ⟨"orders", "test", []⟩ partlyServed
    obtain ⟨_, ⟨k, e, hp⟩, _⟩ := hgood.1.mp hi
    rw [outcome_prepare_padded] at hp
    cases hp

end Installation

end Telemetry
