import Mathlib
import Telemetry.Config.Exporter
import Telemetry.Proofs.Json.Reading
import Telemetry.Proofs.Json.Rounding

namespace Telemetry

open Json (Decoder IsSized)

section Values

variable {α : Type} {j : Json}

def IsText (j : Json) (s : String) : Prop := j = .str s

def IsFlag (j : Json) (b : Bool) : Prop := j = .bool b

def CountsMillis (j : Json) (d : Duration) : Prop :=
  ∃ n < 2 ^ 64, j = .num (.natural n) ∧ d = .ofMillis n

def IsNullable (P : Json → α → Prop) (j : Json) (o : Option α) : Prop :=
  (j = .null ∧ o = none) ∨ ∃ a, P j a ∧ o = some a

end Values

namespace Sampling

def units : List (String × Sampling) :=
  [("parent_based", parentBased), ("always_on", alwaysOn), ("always_off", alwaysOff)]

/-- How a policy stands in JSON. -/
inductive Stands : Json → Sampling → Prop
  | name {name : String} {p : Sampling} : (name, p) ∈ units → Stands (.str name) p
  | entry {name : String} {p : Sampling} : (name, p) ∈ units → Stands (.obj [(name, .null)]) p
  | ratio (n : Json.Number) : Stands (.obj [("ratio", .num n)]) (.ratio n.toBinary64)

theorem decoder_ofJson_eq_ok_iff [Json.Rounding] {j : Json} {p : Sampling} :
    decoder.ofJson j = .ok p ↔ Stands j p := by
  have hvariants : decoder = .choice (units.map (fun u ↦ ⟨u.1, .none u.2⟩) ++
      [⟨"ratio", .one (Decoder.real.map ratio)⟩]) := rfl
  rw [hvariants, Decoder.choice_ofJson_eq_ok_iff (by simp [units])]
  constructor
  · intro h
    obtain ⟨v, hv, h⟩ := h
    obtain hv | hv := List.mem_append.mp hv
    · obtain ⟨u, hu, rfl⟩ := List.mem_map.mp hv
      obtain ⟨hp, rfl | rfl⟩ | ⟨d, x, hd, -⟩ := h
      · cases hp
        exact .name hu
      · cases hp
        exact .entry hu
      · cases hd
    · obtain rfl := List.mem_singleton.mp hv
      obtain ⟨hp, -⟩ | ⟨d, x, hd, rfl, hx⟩ := h
      · cases hp
      · cases hd
        obtain ⟨y, hy, rfl⟩ := Decoder.map_ofJson_eq_ok_iff.mp hx
        obtain ⟨n, rfl, rfl⟩ := Decoder.real_ofJson_eq_ok_iff.mp hy
        exact .ratio n
  · intro h
    cases h with
    | name hu =>
      exact ⟨_, List.mem_append_left _ (List.mem_map_of_mem hu), .inl ⟨rfl, .inl rfl⟩⟩
    | entry hu =>
      exact ⟨_, List.mem_append_left _ (List.mem_map_of_mem hu), .inl ⟨rfl, .inr rfl⟩⟩
    | ratio n =>
      exact ⟨_, List.mem_append_right _ List.mem_cons_self, .inr ⟨_, _, rfl, rfl, rfl⟩⟩

end Sampling

namespace ExporterConfig

open Json.Field (Shows Fills)

/-- The known keys, in the order in which an array gives their values. -/
def keys : List String :=
  ["service_name", "environment", "endpoint", "insecure", "tls_cert", "tls_key", "tls_ca",
    "batch_timeout_ms", "metric_interval_ms", "sampling"]

section Fields

variable [Json.Rounding]

theorem fields_show :
    Shows fields "service_name" Decoder.text (·.serviceName) ∧
    Shows fields "environment" Decoder.text (·.environment) ∧
    Shows fields "endpoint" Decoder.text (·.endpoint) ∧
    Shows fields "insecure" Decoder.flag (·.insecure) ∧
    Shows fields "tls_cert" Decoder.text.nullable (·.tlsCert) ∧
    Shows fields "tls_key" Decoder.text.nullable (·.tlsKey) ∧
    Shows fields "tls_ca" Decoder.text.nullable (·.tlsCa) ∧
    Shows fields "batch_timeout_ms" millis (·.batchTimeout) ∧
    Shows fields "metric_interval_ms" millis (·.metricInterval) ∧
    Shows fields "sampling" Sampling.decoder.nullable (·.sampling) := by
  refine ⟨?_, ?_, ?_, ?_, ?_, ?_, ?_, ?_, ?_, ?_⟩
  all_goals
    intro f hf j change h r
    simp only [fields, List.mem_cons, List.not_mem_nil, or_false] at hf
    obtain rfl | rfl | rfl | rfl | rfl | rfl | rfl | rfl | rfl | rfl := hf
    all_goals
      obtain ⟨a, ha, rfl⟩ := Decoder.map_ofJson_eq_ok_iff.mp h
      first
      | exact ha
      | rfl

theorem names_fields : fields.map (·.name) = keys := rfl

theorem nodup_fields : (fields.map (·.name)).Nodup := by
  rw [names_fields]
  decide

end Fields

/-- What a configuration is that an object stands for: each field as its member says, or its
default. -/
structure FromObject (members : List (String × Json)) (c : ExporterConfig) : Prop where
  serviceName : Fills IsText members "service_name" "" c.serviceName
  environment : Fills IsText members "environment" "" c.environment
  endpoint : Fills IsText members "endpoint" "" c.endpoint
  insecure : Fills IsFlag members "insecure" false c.insecure
  tlsCert : Fills (IsNullable IsText) members "tls_cert" none c.tlsCert
  tlsKey : Fills (IsNullable IsText) members "tls_key" none c.tlsKey
  tlsCa : Fills (IsNullable IsText) members "tls_ca" none c.tlsCa
  batchTimeout : Fills CountsMillis members "batch_timeout_ms" (.ofSeconds 5) c.batchTimeout
  metricInterval : Fills CountsMillis members "metric_interval_ms" (.ofSeconds 10) c.metricInterval
  sampling : Fills (IsNullable Sampling.Stands) members "sampling" none c.sampling

/-- A value may stand for a key: it has the type of the field with this name, if there is one. -/
def HasType (key : String) (j : Json) : Prop :=
  (key ∈ ["service_name", "environment", "endpoint"] → ∃ s, IsText j s) ∧
  (key = "insecure" → ∃ b, IsFlag j b) ∧
  (key ∈ ["tls_cert", "tls_key", "tls_ca"] → ∃ o, IsNullable IsText j o) ∧
  (key ∈ ["batch_timeout_ms", "metric_interval_ms"] → ∃ d, CountsMillis j d) ∧
  (key = "sampling" → ∃ o, IsNullable Sampling.Stands j o)

section Decoding

variable {j : Json}

theorem hasType_of_unknown {key : String} (h : key ∉ keys) : HasType key j := by
  simp only [keys, List.mem_cons, List.not_mem_nil, or_false, not_or] at h
  simp [HasType, h]

variable [Json.Rounding]

theorem nullableText_ofJson_eq_ok_iff {o : Option String} :
    Decoder.text.nullable.ofJson j = .ok o ↔ IsNullable IsText j o := by
  rw [Decoder.nullable_ofJson_eq_ok_iff (by simp [Decoder.text])]
  simp [IsNullable, IsText, Decoder.text_ofJson_eq_ok_iff]

theorem nullablePolicy_ofJson_eq_ok_iff {o : Option Sampling} :
    Sampling.decoder.nullable.ofJson j = .ok o ↔ IsNullable Sampling.Stands j o := by
  have hnull : ∀ p, Sampling.decoder.ofJson .null ≠ .ok p := by
    intro p h
    cases Sampling.decoder_ofJson_eq_ok_iff.mp h
  rw [Decoder.nullable_ofJson_eq_ok_iff hnull]
  simp [IsNullable, Sampling.decoder_ofJson_eq_ok_iff]

theorem millis_ofJson_eq_ok_iff (sized : IsSized j) {d : Duration} :
    millis.ofJson j = .ok d ↔ CountsMillis j d := by
  unfold millis
  rw [Decoder.map_ofJson_eq_ok_iff]
  constructor
  · intro h
    obtain ⟨n, hn, rfl⟩ := h
    obtain rfl := Decoder.word_ofJson_eq_ok_iff.mp hn
    exact ⟨n, sized n rfl, rfl, rfl⟩
  · intro h
    obtain ⟨n, -, rfl, rfl⟩ := h
    exact ⟨n, rfl, rfl⟩

theorem change_isOk_iff (sized : IsSized j) {f : Json.Field ExporterConfig} (hf : f ∈ fields) :
    (∃ change, f.change.ofJson j = .ok change) ↔ HasType f.name j := by
  simp only [fields, List.mem_cons, List.not_mem_nil, or_false] at hf
  obtain rfl | rfl | rfl | rfl | rfl | rfl | rfl | rfl | rfl | rfl := hf
  all_goals
    simp [HasType, Decoder.map_ofJson_isOk_iff, Decoder.text_ofJson_eq_ok_iff,
      Decoder.flag_ofJson_eq_ok_iff, nullableText_ofJson_eq_ok_iff, millis_ofJson_eq_ok_iff sized,
      nullablePolicy_ofJson_eq_ok_iff, IsText, IsFlag]

theorem typed_fields_iff {members : List (String × Json)} (sized : ∀ m ∈ members, IsSized m.2) :
    Json.Field.Typed fields members ↔ ∀ m ∈ members, HasType m.1 m.2 := by
  apply forall₂_congr
  intro m hm
  constructor
  · intro h
    by_cases hkey : m.1 ∈ keys
    · rw [← names_fields] at hkey
      obtain ⟨f, hf, hname⟩ := List.mem_map.mp hkey
      rw [← hname, ← change_isOk_iff (sized m hm) hf]
      exact h f ((Json.Field.find?_eq_some_iff nodup_fields).mpr ⟨hf, hname⟩)
    · exact hasType_of_unknown hkey
  · intro h f hfind
    obtain ⟨hf, hname⟩ := (Json.Field.find?_eq_some_iff nodup_fields).mp hfind
    rw [change_isOk_iff (sized m hm) hf, hname]
    exact h

end Decoding

section Objects

variable {members : List (String × Json)} {c : ExporterConfig}

theorem FromObject.hasType (h : FromObject members c) {m : String × Json} (hm : m ∈ members) :
    HasType m.1 m.2 := by
  obtain ⟨key, j⟩ := m
  refine ⟨?_, ?_, ?_, ?_, ?_⟩
  · intro hkey
    simp only [List.mem_cons, List.not_mem_nil, or_false] at hkey
    obtain rfl | rfl | rfl := hkey
    · exact ⟨_, h.serviceName.1 j hm⟩
    · exact ⟨_, h.environment.1 j hm⟩
    · exact ⟨_, h.endpoint.1 j hm⟩
  · rintro rfl
    exact ⟨_, h.insecure.1 j hm⟩
  · intro hkey
    simp only [List.mem_cons, List.not_mem_nil, or_false] at hkey
    obtain rfl | rfl | rfl := hkey
    · exact ⟨_, h.tlsCert.1 j hm⟩
    · exact ⟨_, h.tlsKey.1 j hm⟩
    · exact ⟨_, h.tlsCa.1 j hm⟩
  · intro hkey
    simp only [List.mem_cons, List.not_mem_nil, or_false] at hkey
    obtain rfl | rfl := hkey
    · exact ⟨_, h.batchTimeout.1 j hm⟩
    · exact ⟨_, h.metricInterval.1 j hm⟩
  · rintro rfl
    exact ⟨_, h.sampling.1 j hm⟩

variable [Json.Rounding]

theorem FromObject.unique {c' : ExporterConfig} (h : FromObject members c)
    (h' : FromObject members c') : c = c' := by
  have htext : ∀ j a b, IsText j a → IsText j b → a = b := by
    intro j a b ha hb
    exact Json.str.inj (ha.symm.trans hb)
  have hflag : ∀ j a b, IsFlag j a → IsFlag j b → a = b := by
    intro j a b ha hb
    exact Json.bool.inj (ha.symm.trans hb)
  have hoptional : ∀ j a b, IsNullable IsText j a → IsNullable IsText j b → a = b := by
    intro j a b ha hb
    rw [← nullableText_ofJson_eq_ok_iff] at ha hb
    exact Except.ok.inj (ha.symm.trans hb)
  have hmillis : ∀ j a b, CountsMillis j a → CountsMillis j b → a = b := by
    intro j a b ha hb
    obtain ⟨n, -, rfl, rfl⟩ := ha
    obtain ⟨m, -, hm, rfl⟩ := hb
    cases hm
    rfl
  have hsampling : ∀ j a b, IsNullable Sampling.Stands j a → IsNullable Sampling.Stands j b →
      a = b := by
    intro j a b ha hb
    rw [← nullablePolicy_ofJson_eq_ok_iff] at ha hb
    exact Except.ok.inj (ha.symm.trans hb)
  cases c
  cases c'
  rw [ExporterConfig.mk.injEq]
  exact ⟨h.serviceName.unique htext h'.serviceName, h.environment.unique htext h'.environment,
    h.endpoint.unique htext h'.endpoint, h.insecure.unique hflag h'.insecure,
    h.tlsCert.unique hoptional h'.tlsCert, h.tlsKey.unique hoptional h'.tlsKey,
    h.tlsCa.unique hoptional h'.tlsCa, h.batchTimeout.unique hmillis h'.batchTimeout,
    h.metricInterval.unique hmillis h'.metricInterval, h.sampling.unique hsampling h'.sampling⟩

theorem fromObject_of_decoder (sized : ∀ m ∈ members, IsSized m.2)
    (nodup : (members.map (·.1)).Nodup) (h : decoder.ofJson (.obj members) = .ok c) :
    FromObject members c := by
  obtain ⟨p, hp, rfl⟩ := Decoder.record_ofJson_obj_eq_ok_iff.mp h
  obtain ⟨hservice, henvironment, hendpoint, hinsecure, hcert, hkey, hca, hbatch, hmetric,
    hsampling⟩ := fields_show
  have hmem : ∀ name ∈ keys, ∃ f ∈ fields, f.name = name := by
    intro name hname
    rw [← names_fields] at hname
    exact List.mem_map.mp hname
  have hfills {α : Type} {name : String} {d : Decoder α} {get : ExporterConfig → α}
      (hshows : Shows fields name d get) (hname : name ∈ keys) :
      Fills (d.ofJson · = .ok ·) members name (get {}) (get p.1) :=
    Json.Field.fills_of_foldlM hshows (hmem name hname) nodup hp
  have htext (j : Json) (s : String) : Decoder.text.ofJson j = .ok s → IsText j s :=
    Decoder.text_ofJson_eq_ok_iff.mp
  have hflag (j : Json) (b : Bool) : Decoder.flag.ofJson j = .ok b → IsFlag j b :=
    Decoder.flag_ofJson_eq_ok_iff.mp
  have hoptional (j : Json) (o : Option String) :
      Decoder.text.nullable.ofJson j = .ok o → IsNullable IsText j o :=
    nullableText_ofJson_eq_ok_iff.mp
  constructor
  case serviceName => exact (hfills hservice (by decide)).imp fun j s _ ↦ htext j s
  case environment => exact (hfills henvironment (by decide)).imp fun j s _ ↦ htext j s
  case endpoint => exact (hfills hendpoint (by decide)).imp fun j s _ ↦ htext j s
  case insecure => exact (hfills hinsecure (by decide)).imp fun j b _ ↦ hflag j b
  case tlsCert => exact (hfills hcert (by decide)).imp fun j o _ ↦ hoptional j o
  case tlsKey => exact (hfills hkey (by decide)).imp fun j o _ ↦ hoptional j o
  case tlsCa => exact (hfills hca (by decide)).imp fun j o _ ↦ hoptional j o
  case batchTimeout =>
    apply (hfills hbatch (by decide)).imp
    intro j d hj
    exact (millis_ofJson_eq_ok_iff (sized _ hj)).mp
  case metricInterval =>
    apply (hfills hmetric (by decide)).imp
    intro j d hj
    exact (millis_ofJson_eq_ok_iff (sized _ hj)).mp
  case sampling =>
    apply (hfills hsampling (by decide)).imp
    intro j o _
    exact nullablePolicy_ofJson_eq_ok_iff.mp

theorem decoder_isOk_iff (sized : ∀ m ∈ members, IsSized m.2)
    (nodup : (members.map (·.1)).Nodup) :
    (∃ c, decoder.ofJson (.obj members) = .ok c) ↔ ∀ m ∈ members, HasType m.1 m.2 := by
  rw [← typed_fields_iff sized]
  exact Decoder.record_ofJson_obj_isOk_iff nodup

theorem decoder_eq_ok_iff (sized : ∀ m ∈ members, IsSized m.2)
    (nodup : (members.map (·.1)).Nodup) :
    decoder.ofJson (.obj members) = .ok c ↔ FromObject members c := by
  constructor
  · exact fromObject_of_decoder sized nodup
  · intro h
    obtain ⟨c', hc'⟩ := (decoder_isOk_iff sized nodup).mpr fun m hm ↦ h.hasType hm
    rw [h.unique (fromObject_of_decoder sized nodup hc')]
    exact hc'

end Objects

section Texts

variable [Json.Rounding]

theorem fields_agree : ∀ f ∈ fields, f.change.Agrees := by
  have htext := Decoder.text_agrees
  have hoptional := Decoder.nullable_agrees htext
  have hmillis : millis.Agrees := Decoder.map_agrees (Decoder.number_agrees _ _) _
  have hpolicy : Sampling.decoder.Agrees := by
    apply Decoder.choice_agrees
    intro v hv d hd
    simp only [List.mem_cons, List.not_mem_nil, or_false] at hv
    obtain rfl | rfl | rfl | rfl := hv
    all_goals cases hd
    exact Decoder.map_agrees (Decoder.number_agrees _ _) _
  simp only [fields, List.forall_mem_cons]
  exact ⟨Decoder.map_agrees htext _, Decoder.map_agrees htext _, Decoder.map_agrees htext _,
    Decoder.map_agrees Decoder.flag_agrees _, Decoder.map_agrees hoptional _,
    Decoder.map_agrees hoptional _, Decoder.map_agrees hoptional _,
    Decoder.map_agrees hmillis _, Decoder.map_agrees hmillis _,
    Decoder.map_agrees (Decoder.nullable_agrees hpolicy) _, nofun⟩

theorem decoder_agrees : decoder.Agrees :=
  Decoder.record_agrees fields_agree

/-- A result is what an object is as a configuration: there is one exactly if the values of the
known keys have their types, and then it is the one that the object stands for. -/
def IsReading {ε : Type} (members : List (String × Json)) (r : Except ε ExporterConfig) : Prop :=
  ((∃ c, r = .ok c) ↔ ∀ m ∈ members, HasType m.1 m.2) ∧
  ∀ c, r = .ok c ↔ FromObject members c

variable {members : List (String × Json)}

theorem isReading_ofJson (nodup : (members.map (·.1)).Nodup) (sized : ∀ m ∈ members, IsSized m.2) :
    IsReading members (decoder.ofJson (.obj members)) :=
  ⟨decoder_isOk_iff sized nodup, fun _ ↦ decoder_eq_ok_iff sized nodup⟩

theorem isReading_ofText (nodup : (members.map (·.1)).Nodup) {s : String}
    (hlisted : Json.Listed keys s members) : IsReading members (decoder.ofText s) := by
  have htext (c : ExporterConfig) : decoder.ofText s = .ok c ↔
      decoder.ofJson (.obj members) = .ok c := by
    rw [← names_fields] at hlisted
    exact Decoder.record_ofText_eq_ok_iff fields_agree hlisted
  unfold IsReading
  simp only [htext]
  exact isReading_ofJson nodup hlisted.isSized

end Texts

end ExporterConfig

end Telemetry
