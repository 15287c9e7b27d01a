import Mathlib
import Telemetry.Proofs.Installation.Failure

namespace Telemetry

def SetupError.about (k : Signal) : SetupError → SetupError
  | exporter _ part => exporter k part
  | e => e

namespace Export

def tlsFault? (c : ExporterConfig) : Option Credentials.Fault :=
  match Credentials.Material.ofConfig c with
  | .error f => some f
  | .ok none => none
  | .ok (some m) => match Client.withMaterial m {} with
    | .error f => some f
    | .ok _ => none

/-- The first thing that is wrong with a configuration that has an endpoint. -/
inductive Flaw (c : ExporterConfig) (k : Signal) : SetupError → Prop
  | name (h : Text.isBlankText c.serviceName = true) : Flaw c k (.config .blankServiceName)
  | endpoint {f : EndpointFault} (hname : Text.isBlankText c.serviceName = false)
      (h : Endpoint.base c = .error f) :
      Flaw c k (.exporter k (.endpoint (Text.trim c.endpoint) f))
  | credentials {u : Url} {f : Credentials.Fault} (hname : Text.isBlankText c.serviceName = false)
      (hbase : Endpoint.base c = .ok u) (h : tlsFault? c = some f) : Flaw c k (.credentials f)
  | client {u : Url} (hname : Text.isBlankText c.serviceName = false)
      (hbase : Endpoint.base c = .ok u) (htls : tlsFault? c = none) (h : client? c = none) :
      Flaw c k (.exporter k .client)

def silenceReports (c : ExporterConfig) (k : Signal) : List Event :=
  (if c.hasTlsMaterial then
    [.named "credentials_ignored" .warn
      "TLS material configured without an endpoint, export stays disabled" (subject c k)]
    else []) ++
  [.named "export_disabled" .debug "no OTLP endpoint configured" (subject c k)]

variable {c : ExporterConfig} {k : Signal} {e : SetupError}

theorem Flaw.about (h : Flaw c k e) (k' : Signal) : Flaw c k' (e.about k') := by
  cases h with
  | name h => exact .name h
  | endpoint hname h => exact .endpoint hname h
  | credentials hname hbase h => exact .credentials hname hbase h
  | client hname hbase htls h => exact .client hname hbase htls h

theorem flaw_iff_of_blank (hname : Text.isBlankText c.serviceName = true) :
    Flaw c k e ↔ e = .config .blankServiceName := by
  constructor
  · intro h
    cases h with
    | name => rfl
    | endpoint hn | credentials hn | client hn => simp [hname] at hn
  · rintro rfl
    exact .name hname

theorem flaw_iff_of_base_error (hname : Text.isBlankText c.serviceName = false)
    {f : EndpointFault} (hbase : Endpoint.base c = .error f) :
    Flaw c k e ↔ e = .exporter k (.endpoint (Text.trim c.endpoint) f) := by
  constructor
  · intro h
    cases h with
    | name hn => simp [hname] at hn
    | endpoint _ hf =>
      cases hbase.symm.trans hf
      rfl
    | credentials _ hu | client _ hu => cases hbase.symm.trans hu
  · rintro rfl
    exact .endpoint hname hbase

theorem flaw_iff_of_base_ok (hname : Text.isBlankText c.serviceName = false) {u : Url}
    (hbase : Endpoint.base c = .ok u) : Flaw c k e ↔
      (∃ f, tlsFault? c = some f ∧ e = .credentials f) ∨
        (tlsFault? c = none ∧ client? c = none ∧ e = .exporter k .client) := by
  constructor
  · intro h
    cases h with
    | name hn => simp [hname] at hn
    | endpoint _ hf => cases hbase.symm.trans hf
    | credentials _ _ hf => exact .inl ⟨_, hf, rfl⟩
    | client _ _ htls hc => exact .inr ⟨htls, hc, rfl⟩
  · rintro (⟨f, hf, rfl⟩ | ⟨htls, hc, rfl⟩)
    · exact .credentials hname hbase hf
    · exact .client hname hbase htls hc

theorem run_isDisabled (h : c.isDisabled = true) (k : Signal) (events : List Event) :
    (isDisabled c k).run events = (true, events ++ silenceReports c k) := by
  unfold isDisabled silenceReports
  rw [if_pos h]
  split
  · exact congrArg₂ Prod.mk h (List.append_assoc ..)
  · exact congrArg₂ Prod.mk h rfl

theorem outcome_httpClient_eq_error : outcome (httpClient c k) = .error e ↔
    (∃ f, tlsFault? c = some f ∧ e = .credentials f) ∨
      (tlsFault? c = none ∧ client? c = none ∧ e = .exporter k .client) := by
  unfold httpClient tlsFault? client?
  cases Credentials.Material.ofConfig c with
  | error f => simp [eq_comm]
  | ok material =>
    cases material with
    | none => simp
    | some m =>
      dsimp only
      rw [Steady.outcome_bind (.report _)]
      · cases Client.withMaterial m {} with
        | error f => simp [eq_comm]
        | ok made => by_cases hm : made.isMakeable <;> simp [hm, eq_comm]
      · split <;> exact .pure _

theorem outcome_prepare_eq_error : outcome (prepare c k) = .error e ↔ Flaw c k e := by
  unfold prepare ExporterConfig.validate
  cases hname : Text.isBlankText c.serviceName with
  | true => simp [flaw_iff_of_blank hname, eq_comm]
  | false =>
    unfold endpoint Endpoint.url
    cases hbase : Endpoint.base c with
    | error f => simp [flaw_iff_of_base_error hname hbase, Except.map, Except.mapError, eq_comm]
    | ok u =>
      rw [flaw_iff_of_base_ok hname hbase, ← outcome_httpClient_eq_error]
      simp only [Bool.false_eq_true, if_false, Except.map, Except.mapError]
      rw [(steady_httpClient c k).outcome_map]
      cases outcome (httpClient c k) <;> simp

end Export

namespace Pipeline

open Export

variable {c : ExporterConfig} {k : Signal}

theorem run_build_of_disabled (ids : IdSource) (resource : Resource) (h : c.isDisabled = true)
    (k : Signal) (events : List Event) :
    (build ids resource c k).run events = (.ok none, events ++ silenceReports c k) := by
  rw [build_eq, StateT.run_bind, run_isDisabled h]
  rfl

theorem made_eq_ok_none_iff {ids : IdSource} {resource : Resource} :
    made ids resource c k = .ok none ↔ c.isDisabled = true := by
  refine ⟨fun h ↦ ?_, made_of_disabled⟩
  by_contra hd
  rcases made_of_enabled ids resource k (by simpa using hd) with ⟨p, hp, -⟩ | ⟨e, he⟩
  · cases h.symm.trans hp
  · cases h.symm.trans he

theorem made_eq_error_iff {ids : IdSource} {resource : Resource} (hsend : Sendable c)
    {e : SetupError} :
    made ids resource c k = .error e ↔ c.isDisabled = false ∧ Flaw c k e := by
  rw [← outcome_prepare_eq_error]
  constructor
  · intro h
    have hd : c.isDisabled = false := by
      by_contra hd
      rw [made_of_disabled (by simpa using hd)] at h
      cases h
    refine ⟨hd, ?_⟩
    cases hp : outcome (prepare c k) with
    | ok ready => exact absurd h (made_ne_error ids resource hp (hsend k _ _ hp) e)
    | error e' =>
      rw [made_of_unprepared ids resource hd hp] at h
      cases h
      rfl
  · rintro ⟨hd, he⟩
    exact made_of_unprepared ids resource hd he

end Pipeline

namespace Registry

open ProviderCache ( entry?)

variable {resource : Resource} {c : ExporterConfig} {k : Signal} {reg : Registry}

theorem isSome_of_build {candidate : Option Nat}
    (h : (reg.build resource c k).1 = .ok candidate) :
    candidate.isSome = (request c).enables := by
  obtain ⟨es, hb⟩ := reg.build_eq resource c k
  rw [hb] at h
  rcases hm : Pipeline.made reg.ids resource c k with e | - | p
  · rw [hm] at h
    cases h
  · rw [hm] at h
    cases h
    simp [request, Pipeline.made_eq_ok_none_iff.mp hm]
  · rw [hm] at h
    cases h
    simp [request, Pipeline.enabled_of_made hm]

theorem origin_of_resolve {cache : ProviderCache Nat} {r : Resolved Nat}
    (h : (reg.resolve cache resource c k).1 = .ok r) : r.origin ≠ .raced := by
  unfold resolve at h
  split at h
  · next found hf =>
    cases h
    rw [ProviderCache.origin_of_hit? hf]
    nofun
  · next hmiss =>
    split at h
    · cases h
    · next candidate reg' hb =>
      cases h
      have hsome := isSome_of_build (congrArg Prod.fst hb)
      unfold ProviderCache.hit? at hmiss
      unfold ProviderCache.settle
      rcases he : entry? cache (request c).key with - | - | p
      · nofun
      · simp only [he, ite_eq_left_iff] at hmiss
        cases hen : (request c).enables <;> simp_all
      · simp [he] at hmiss

open Export (Flaw Sendable)

/-- The makers of the providers of the three signals stay in step, where requests can be sent to what
has been prepared:
* without an endpoint none of them builds a provider, and none of them looks at the configuration
  any further than to report that export is off;
* with an endpoint all of them build a provider, or all of them fail over the same thing, which is
  the first that is wrong of the service name, the endpoint, the credentials and the client.

So a lookup comes with a provider just when it takes no note of being off for an answer, and with
no other lookup at the same time it never turns out too late. -/
theorem built_in_step (hsend : Sendable c) (ids : IdSource) (resource : Resource) :
    (∀ k events, ((Pipeline.build ids resource c k).run events).1 = Pipeline.made ids resource c k) ∧
    (∀ k, Pipeline.made ids resource c k = .ok none ↔ Text.isBlankText c.endpoint = true) ∧
    (Text.isBlankText c.endpoint = true → ∀ k events, (Pipeline.build ids resource c k).run events =
      (.ok none, events ++ Export.silenceReports c k)) ∧
    ((∀ k, Pipeline.made ids resource c k = .ok none) ∨
      (∀ k, ∃ p, Pipeline.made ids resource c k = .ok (some p) ∧ p.signal = k) ∨
      ∃ e : SetupError, ∀ k, Pipeline.made ids resource c k = .error (e.about k)) ∧
    (∀ k e, Pipeline.made ids resource c k = .error e ↔
      Text.isBlankText c.endpoint = false ∧ Flaw c k e) ∧
    (request c).enables = !Text.isBlankText c.endpoint ∧
    ∀ (reg : Registry) (k : Signal),
      (∀ candidate, (reg.build resource c k).1 = .ok candidate →
        candidate.isSome = (request c).enables) ∧
      (∀ cache r, (reg.resolve cache resource c k).1 = .ok r → r.origin ≠ .raced) ∧
      ∀ r, (reg.provider resource c k).1 = .ok r → r.origin ≠ .raced := by
  have fails (k : Signal) (e : SetupError) : Pipeline.made ids resource c k = .error e ↔
      Text.isBlankText c.endpoint = false ∧ Flaw c k e := Pipeline.made_eq_error_iff hsend
  have found (reg : Registry) (k : Signal) (r : Resolved Nat)
      (h : (reg.provider resource c k).1 = .ok r) : r.origin ≠ .raced :=
    origin_of_resolve (show (reg.resolve (reg.caches.get k) resource c k).1 = .ok r from h)
  refine ⟨fun k events ↦ ?_, fun k ↦ Pipeline.made_eq_ok_none_iff, fun hd k events ↦
    Pipeline.run_build_of_disabled ids resource hd k events, ?_, fails, rfl, fun reg k ↦
    ⟨fun candidate ↦ isSome_of_build, fun cache r ↦ origin_of_resolve, found reg k⟩⟩
  · obtain ⟨es, hrun⟩ := (Pipeline.steady_build ids resource c k).run_eq events
    rw [hrun]
    rfl
  · cases hd : c.isDisabled with
    | true => exact .inl fun k ↦ Pipeline.made_of_disabled hd
    | false =>
      by_cases hflaw : ∃ k e, Flaw c k e
      · obtain ⟨k, e, he⟩ := hflaw
        exact .inr (.inr ⟨e, fun k' ↦ (fails k' _).mpr ⟨hd, he.about k'⟩⟩)
      · refine .inr (.inl fun k ↦ ?_)
        rcases Pipeline.made_of_enabled ids resource k hd with hmade | ⟨e, he⟩
        · exact hmade
        · exact absurd ⟨k, e, ((fails k e).mp he).2⟩ hflaw

def doubtful : ExporterConfig :=
  { serviceName := "orders", endpoint := "http://", tlsCa := some "***" }

/-- Where two things are wrong, the error is about the first. -/
theorem doubtful_in_step :
    (Sendable doubtful ∧ ∀ k, Pipeline.made ⟨fun _ ↦ 0, fun _ ↦ 0⟩ ⟨"orders", "test", []⟩ doubtful k =
      .error (.exporter k (.endpoint "http://" (.url .emptyHost)))) ∧
    Sendable (padded 0) ∧ ∀ k, ∃ p, Pipeline.made ⟨fun _ ↦ 0, fun _ ↦ 0⟩ ⟨"orders", "test", []⟩
      (padded 0) k = .ok (some p) := by
  have hbase : Endpoint.base doubtful = .error (.url .emptyHost) := by decide +kernel
  have flaw (k : Signal) :
      Flaw doubtful k (.exporter k (.endpoint "http://" (.url .emptyHost))) :=
    .endpoint (by decide) hbase
  have hsend : Sendable doubtful := by
    intro k u client hu
    rw [Export.outcome_prepare_eq_error.mpr (flaw k)] at hu
    cases hu
  obtain ⟨_, _, _, _, hdoubtful, _⟩ := built_in_step hsend ⟨fun _ ↦ 0, fun _ ↦ 0⟩
    ⟨"orders", "test", []⟩
  obtain ⟨_, hnone, _, halike, hpadded, _⟩ := built_in_step Installation.sendable_padded
    ⟨fun _ ↦ 0, fun _ ↦ 0⟩ ⟨"orders", "test", []⟩
  refine ⟨⟨hsend, fun k ↦ (hdoubtful k _).mpr ⟨by decide, flaw k⟩⟩, Installation.sendable_padded,
    fun k ↦ ?_⟩
  rcases halike with hnone' | hmade | ⟨e, he⟩
  · have hblank := (hnone k).mp (hnone' k)
    exact absurd (hblank.symm.trans (isDisabled_padded 0)) Bool.noConfusion
  · obtain ⟨p, hp, _⟩ := hmade k
    exact ⟨p, hp⟩
  · have hflaw := ((hpadded k _).mp (he k)).2
    rw [← Export.outcome_prepare_eq_error, outcome_prepare_padded] at hflaw
    cases hflaw

end Registry

end Telemetry
