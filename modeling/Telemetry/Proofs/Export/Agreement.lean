import Mathlib
import Telemetry.Export.Pipeline

namespace Telemetry

/-- The computation does not look at what has been reported before. -/
def Steady {α : Type} (m : Reporting α) : Prop := ∃ a es, ∀ events, m.run events = (a, events ++ es)

def outcome {α : Type} (m : Reporting α) : α := (m.run []).1

@[simp] theorem outcome_pure {α : Type} (a : α) : outcome (pure a) = a := rfl

namespace Steady

variable {α β : Type} {m : Reporting α} {f : α → Reporting β}

theorem pure (a : α) : Steady (Pure.pure a) :=
  ⟨a, [], fun events ↦ by rw [List.append_nil]; rfl⟩

theorem report (e : Event) : Steady (Telemetry.report e) := ⟨(), [e], fun _ ↦ rfl⟩

theorem bind (hm : Steady m) (hf : ∀ a, Steady (f a)) : Steady (m >>= f) := by
  obtain ⟨a, es, hrun⟩ := hm
  obtain ⟨b, es', hrun'⟩ := hf a
  refine ⟨b, es ++ es', fun events ↦ ?_⟩
  rw [StateT.run_bind, hrun]
  exact (hrun' _).trans (by rw [List.append_assoc])

theorem run_eq (h : Steady m) (events : List Event) :
    ∃ es, m.run events = (outcome m, events ++ es) := by
  obtain ⟨a, es, hrun⟩ := h
  refine ⟨es, ?_⟩
  rw [outcome, hrun, hrun]

theorem outcome_bind (hm : Steady m) (hf : Steady (f (outcome m))) :
    outcome (m >>= f) = outcome (f (outcome m)) := by
  obtain ⟨a, es, hrun⟩ := hm
  have ha : outcome m = a := congrArg Prod.fst (hrun [])
  rw [ha] at hf ⊢
  obtain ⟨b, es', hrun'⟩ := hf
  have hb : outcome (f a) = b := congrArg Prod.fst (hrun' [])
  have hboth : (m >>= f).run [] = (b, [] ++ es ++ es') := by
    rw [StateT.run_bind, hrun]
    exact hrun' _
  rw [hb, outcome, hboth]

theorem outcome_map (hm : Steady m) (g : α → β) :
    outcome (m >>= fun a ↦ Pure.pure (g a)) = g (outcome m) := by
  rw [hm.outcome_bind (f := fun a ↦ Pure.pure (g a)) (.pure _), outcome_pure]

end Steady

namespace Export

section Steadiness

variable (c : ExporterConfig) (k : Signal)

theorem steady_isDisabled : Steady (isDisabled c k) := by
  unfold isDisabled
  split
  · split
    · exact .bind (.report _) fun _ ↦ .bind (.report _) fun _ ↦ .pure _
    · exact .bind (.report _) fun _ ↦ .pure _
  · exact .pure _

theorem outcome_isDisabled : outcome (isDisabled c k) = c.isDisabled := by
  unfold isDisabled
  split
  · split <;> rfl
  · rfl

theorem steady_httpClient : Steady (httpClient c k) := by
  unfold httpClient
  split
  · exact .pure _
  · exact .pure _
  · refine .bind (.report _) fun _ ↦ ?_
    split <;> exact .pure _

theorem steady_prepare : Steady (prepare c k) := by
  unfold prepare
  split
  · exact .pure _
  · exact .pure _
  · exact .bind (steady_httpClient c k) fun _ ↦ .pure _

def client? (c : ExporterConfig) : Option Client :=
  match Credentials.Material.ofConfig c with
  | .error _ => none
  | .ok none => some {}
  | .ok (some m) => match Client.withMaterial m {} with
    | .error _ => none
    | .ok client => if client.isMakeable then some client else none

theorem outcome_httpClient_eq_ok {client : Client} :
    outcome (httpClient c k) = .ok client ↔ client? c = some client := by
  unfold httpClient client?
  cases Credentials.Material.ofConfig c with
  | error f => simp
  | ok material =>
    cases material with
    | none => simp
    | some m =>
      dsimp only
      rw [Steady.outcome_bind (.report _)]
      · cases Client.withMaterial m {} with
        | error f => simp
        | ok made => by_cases hm : made.isMakeable <;> simp [hm]
      · split <;> exact .pure _

theorem outcome_prepare_eq_ok {u : Url} {client : Client} :
    outcome (prepare c k) = .ok (u, client) ↔
      c.validate = .ok () ∧ endpoint c k = .ok u ∧ client? c = some client := by
  rw [← outcome_httpClient_eq_ok c k]
  unfold prepare
  cases c.validate with
  | error f => simp
  | ok =>
    cases endpoint c k with
    | error e => simp
    | ok url =>
      dsimp only
      rw [(steady_httpClient c k).outcome_map]
      cases outcome (httpClient c k) with
      | error e => simp [Except.map]
      | ok made => simp [Except.map]

end Steadiness

theorem prepare_congr {c : ExporterConfig} {k : Signal} {u : Url} {client : Client}
    (h : outcome (prepare c k) = .ok (u, client)) : ∃ base, Endpoint.base c = .ok base ∧
      ∀ k', outcome (prepare c k') = .ok (Endpoint.withSignalPath k' base, client) := by
  obtain ⟨hvalid, hurl, hclient⟩ := (outcome_prepare_eq_ok c k).mp h
  cases hbase : Endpoint.base c with
  | error f =>
    rw [endpoint, Endpoint.url, hbase] at hurl
    cases hurl
  | ok base =>
    refine ⟨base, rfl, fun k' ↦ (outcome_prepare_eq_ok c k').mpr ⟨hvalid, ?_, hclient⟩⟩
    rw [endpoint, Endpoint.url, hbase]
    rfl

/-- Of the URLs of the three signals, all are short enough for requests or none is. -/
def Uniform (c : ExporterConfig) : Prop :=
  ∀ u, Endpoint.base c = .ok u → ∀ k k',
    longestTarget < (Endpoint.withSignalPath k u).render.utf8ByteSize →
      longestTarget < (Endpoint.withSignalPath k' u).render.utf8ByteSize

theorem host_withSignalPath (k : Signal) (u : Url) : (Endpoint.withSignalPath k u).host = u.host := by
  unfold Endpoint.withSignalPath
  split <;> rfl

theorem Uniform.refusal?_eq_none {c : ExporterConfig} (h : Uniform c) {u : Url}
    (hu : Endpoint.base c = .ok u) {k : Signal}
    (hk : refusal? (Endpoint.withSignalPath k u) = none) (k' : Signal) :
    refusal? (Endpoint.withSignalPath k' u) = none := by
  have hlong := h u hu k' k
  unfold refusal? at hk ⊢
  rw [host_withSignalPath] at hk ⊢
  split at hk
  · cases hk
  · next hshort =>
    rw [if_neg fun hl ↦ hshort (hlong hl)]
    exact hk

end Export

namespace Pipeline

open Export

def made (ids : IdSource) (resource : Resource) (c : ExporterConfig) (k : Signal) :
    Except SetupError (Option Pipeline) := outcome (build ids resource c k)

/-- The provider of what has been prepared, unless requests cannot be sent to its URL. -/
def ofPrepared (ids : IdSource) (resource : Resource) (c : ExporterConfig) (k : Signal) :
    Except SetupError (Url × Client) → Except SetupError (Option Pipeline)
  | .error e => .error e
  | .ok (url, client) => match refusal? url with
    | some r => .error (.exporter k (.target r))
    | none => .ok (some { signal := k, url, client, resource, feed := feedOf ids c k })

variable (ids : IdSource) (resource : Resource) (c : ExporterConfig) (k : Signal)

theorem build_eq : build ids resource c k = isDisabled c k >>= fun disabled ↦
    if disabled then pure (.ok none)
    else prepare c k >>= fun prepared ↦ pure (ofPrepared ids resource c k prepared) := by
  unfold build
  refine bind_congr fun disabled ↦ ?_
  split
  · rfl
  · refine bind_congr fun prepared ↦ ?_
    cases prepared with
    | error e => rfl
    | ok ready =>
      dsimp only [ofPrepared]
      split <;> simp [*]

theorem steady_build : Steady (build ids resource c k) := by
  rw [build_eq]
  refine .bind (steady_isDisabled c k) fun disabled ↦ ?_
  split
  · exact .pure _
  · exact .bind (steady_prepare c k) fun _ ↦ .pure _

theorem made_eq : made ids resource c k =
    if c.isDisabled then .ok none else ofPrepared ids resource c k (outcome (prepare c k)) := by
  have rest : Steady (prepare c k >>= fun prepared ↦
      pure (ofPrepared ids resource c k prepared)) := .bind (steady_prepare c k) fun _ ↦ .pure _
  rw [made, build_eq, Steady.outcome_bind (steady_isDisabled c k), outcome_isDisabled]
  · split
    · rfl
    · exact (steady_prepare c k).outcome_map _
  · split
    · exact .pure _
    · exact rest

variable {ids resource c k}

theorem made_of_disabled (h : c.isDisabled = true) : made ids resource c k = .ok none := by
  rw [made_eq, if_pos h]

theorem enabled_of_made {p : Pipeline} (h : made ids resource c k = .ok (some p)) :
    c.isDisabled = false := by
  rw [Bool.eq_false_iff]
  intro hd
  rw [made_of_disabled hd] at h
  cases h

theorem made_of_enabled (ids : IdSource) (resource : Resource) (k : Signal)
    (h : c.isDisabled = false) :
    (∃ p, made ids resource c k = .ok (some p) ∧ p.signal = k) ∨
      ∃ e, made ids resource c k = .error e := by
  rw [made_eq, h, if_neg Bool.false_ne_true]
  unfold ofPrepared
  split
  · exact .inr ⟨_, rfl⟩
  · split
    · exact .inr ⟨_, rfl⟩
    · exact .inl ⟨_, rfl, rfl⟩

theorem signal_of_made {p : Pipeline} (h : made ids resource c k = .ok (some p)) :
    p.signal = k := by
  rcases made_of_enabled ids resource k (enabled_of_made h) with
    ⟨q, hq, hs⟩ | ⟨e, he⟩
  · rw [hq] at h
    cases h
    exact hs
  · rw [he] at h
    cases h

theorem made_congr (h : Uniform c) {p : Pipeline} (hp : made ids resource c k = .ok (some p))
    (k' : Signal) : ∃ p', made ids resource c k' = .ok (some p') := by
  rw [made_eq] at hp ⊢
  split at hp
  · cases hp
  · next henabled =>
    rw [if_neg henabled]
    cases hprepared : outcome (prepare c k) with
    | error e =>
      rw [hprepared] at hp
      cases hp
    | ok ready =>
      obtain ⟨base, hbase, hready⟩ := prepare_congr hprepared
      rw [hready k] at hp
      rw [hready k']
      cases hr : refusal? (Endpoint.withSignalPath k base) with
      | some r => simp [ofPrepared, hr] at hp
      | none => simp [ofPrepared, h.refusal?_eq_none hbase hr k']

end Pipeline

end Telemetry
