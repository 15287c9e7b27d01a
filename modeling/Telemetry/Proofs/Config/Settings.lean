import Mathlib
import Telemetry.Config.Lookup

namespace Telemetry

namespace Query

variable {ε α β : Type} {f g : String → Option String}

theorem run_bind (q : Query ε α) (next : α → Query ε β) : (q >>= next).run f =
    match q.run f with
    | (names, .ok a) => (names ++ ((next a).run f).1, ((next a).run f).2)
    | (names, .error e) => (names, .error e) := by
  change (q.bind next).run f = _
  induction q with
  | done result => cases result <;> rfl
  | ask name rest ih =>
    rw [Query.bind, run, ih, run]
    rcases (rest (f name)).run f with ⟨names, e | a⟩ <;> rfl

theorem run_congr (q : Query ε α) (h : ∀ n ∈ (q.run f).1, g n = f n) : q.run g = q.run f := by
  induction q with
  | done result => rfl
  | ask name next ih =>
    obtain ⟨hname, hrest⟩ := List.forall_mem_cons.mp h
    rw [run, run, hname, ih (f name) hrest]

end Query

namespace ExporterConfig

/-- The names in the order in which they are asked for. An argument may follow. -/
def names : List String :=
  ["OTEL_SERVICE_NAME", "DEPLOYMENT_ENVIRONMENT", "OTEL_EXPORTER_OTLP_ENDPOINT",
    "OTEL_EXPORTER_OTLP_INSECURE", "OTEL_EXPORTER_OTLP_TLS_CERT", "OTEL_EXPORTER_OTLP_TLS_KEY",
    "OTEL_EXPORTER_OTLP_TLS_CA", "OTEL_BSP_SCHEDULE_DELAY", "OTEL_METRIC_EXPORT_INTERVAL",
    "OTEL_TRACES_SAMPLER"]

def truthWords : List (String × Bool) :=
  [("true", true), ("1", true), ("yes", true), ("false", false), ("0", false), ("no", false),
    ("", false)]

def IsTruth (v : String) (b : Bool) : Prop := (Text.lower (Text.trim v), b) ∈ truthWords

def IsMillis (v : String) (d : Duration) : Prop :=
  ∃ ds, ((Text.trim v).toList = ds ∨ (Text.trim v).toList = '+' :: ds) ∧ ds ≠ [] ∧
    (∀ c ∈ ds, Digits.isDigit c = true) ∧ Digits.value ds < 2 ^ 64 ∧
    d = .ofMillis (Digits.value ds)

def plainPolicies : List (String × Sampling) :=
  [("always_on", .alwaysOn), ("always_off", .alwaysOff), ("parentbased_always_on", .parentBased),
    ("parent_based", .parentBased)]

def ratioNames : List String := ["traceidratio", "ratio"]

/-- The policy that a name asks for, in any case, with an argument if there is one. -/
inductive Asks (name : String) (arg : Option String) : Sampling → Prop
  | plain {p : Sampling} (h : (Text.lower name, p) ∈ plainPolicies) : Asks name arg p
  | all (h : Text.lower name ∈ ratioNames) (harg : arg = none) : Asks name arg (.clamped .one)
  | part {s : String} {x : Binary64} (h : Text.lower name ∈ ratioNames) (harg : arg = some s)
      (hx : Binary64.parse? (Text.trim s) = some x) (hfinite : x.isFinite = true) :
      Asks name arg (.clamped x)

/-- What a setting comes to: the default if it is left out, and else what its value stands for. -/
def Reads {α : Type} (value : Option String) (default : α) (stands : String → α → Prop) (a : α) :
    Prop :=
  match value with
  | none => a = default
  | some v => stands v a

/-- A configuration is what the settings say. -/
structure FromLookup (f : String → Option String) (c : ExporterConfig) : Prop where
  serviceName : c.serviceName = (f "OTEL_SERVICE_NAME").getD ""
  environment : c.environment = (f "DEPLOYMENT_ENVIRONMENT").getD ""
  endpoint : c.endpoint = ((f "OTEL_EXPORTER_OTLP_ENDPOINT").map Text.trim).getD ""
  insecure : Reads (f "OTEL_EXPORTER_OTLP_INSECURE") false IsTruth c.insecure
  tlsCert : c.tlsCert = f "OTEL_EXPORTER_OTLP_TLS_CERT"
  tlsKey : c.tlsKey = f "OTEL_EXPORTER_OTLP_TLS_KEY"
  tlsCa : c.tlsCa = f "OTEL_EXPORTER_OTLP_TLS_CA"
  batchTimeout : Reads (f "OTEL_BSP_SCHEDULE_DELAY") (.ofSeconds 5) IsMillis c.batchTimeout
  metricInterval :
    Reads (f "OTEL_METRIC_EXPORT_INTERVAL") (.ofSeconds 10) IsMillis c.metricInterval
  sampling : Reads (f "OTEL_TRACES_SAMPLER") none
    (fun name p ↦ ∃ q, p = some q ∧ Asks name (f "OTEL_TRACES_SAMPLER_ARG") q) c.sampling

/-- The value of a name stands for nothing that the name can be set to. -/
inductive Malformed (f : String → Option String) (name : String) : ConfigFault → Prop
  | truth {v : String} (hname : name = "OTEL_EXPORTER_OTLP_INSECURE") (set : f name = some v)
      (h : ∀ b, ¬ IsTruth v b) : Malformed f name (.notBoolean name (Text.lower (Text.trim v)))
  | millis {v : String}
      (hname : name ∈ ["OTEL_BSP_SCHEDULE_DELAY", "OTEL_METRIC_EXPORT_INTERVAL"])
      (set : f name = some v) (h : ∀ d, ¬ IsMillis v d) :
      Malformed f name (.notMilliseconds name v)
  | sampler {v : String} (hname : name = "OTEL_TRACES_SAMPLER") (set : f name = some v)
      (h : ∀ p, ¬ Asks v (f "OTEL_TRACES_SAMPLER_ARG") p) :
      Malformed f name (.unsupportedSampler name v (f "OTEL_TRACES_SAMPLER_ARG"))

def before (name : String) : List String := names.takeWhile (· != name)

def FirstMalformed (f : String → Option String) (name : String) (e : ConfigFault) : Prop :=
  Malformed f name e ∧ ∀ n ∈ before name, ∀ e', ¬ Malformed f n e'

def argumentAsked (f : String → Option String) : List String :=
  if (f "OTEL_TRACES_SAMPLER").isSome then ["OTEL_TRACES_SAMPLER_ARG"] else []

section Values

variable {key v : String} {e : ConfigFault}

theorem boolean_eq_ok_iff {b : Bool} : boolean key v = .ok b ↔ IsTruth v b := by
  unfold boolean IsTruth truthWords
  split <;> simp_all

theorem boolean_eq_error_iff : boolean key v = .error e ↔
    (∀ b, ¬ IsTruth v b) ∧ e = .notBoolean key (Text.lower (Text.trim v)) := by
  simp only [← @boolean_eq_ok_iff key]
  unfold boolean
  split <;> simp [eq_comm]

def withoutSign (cs : List Char) : List Char :=
  match cs with
  | '+' :: rest => rest
  | _ => cs

theorem eq_or_eq_sign (cs : List Char) : cs = withoutSign cs ∨ cs = '+' :: withoutSign cs := by
  unfold withoutSign
  split <;> simp

theorem eq_withoutSign {cs ds : List Char} (hds : cs = ds ∨ cs = '+' :: ds)
    (hall : ∀ c ∈ ds, Digits.isDigit c = true) : ds = withoutSign cs := by
  rcases hds with rfl | rfl
  · unfold withoutSign
    split
    · cases hall '+' List.mem_cons_self
    · rfl
  · rfl

theorem unsigned?_eq_some_iff {bound n : Nat} {cs : List Char} :
    Digits.unsigned? bound cs = some n ↔ ∃ ds, (cs = ds ∨ cs = '+' :: ds) ∧ ds ≠ [] ∧
      (∀ c ∈ ds, Digits.isDigit c = true) ∧ Digits.value ds < bound ∧ n = Digits.value ds := by
  have hunsigned : Digits.unsigned? bound cs =
      if (withoutSign cs).isEmpty || !(withoutSign cs).all Digits.isDigit then none
      else if Digits.value (withoutSign cs) < bound then some (Digits.value (withoutSign cs))
      else none := rfl
  rw [hunsigned]
  constructor
  · intro h
    split at h
    · cases h
    · next hdigits =>
      obtain ⟨hne, hall⟩ : withoutSign cs ≠ [] ∧ ∀ c ∈ withoutSign cs, Digits.isDigit c = true := by
        simpa using hdigits
      split at h
      · next hlt =>
        cases h
        exact ⟨withoutSign cs, eq_or_eq_sign cs, hne, hall, hlt, rfl⟩
      · cases h
  · rintro ⟨ds, hds, hne, hall, hlt, rfl⟩
    obtain rfl := eq_withoutSign hds hall
    rw [if_neg, if_pos hlt]
    simpa using ⟨hne, hall⟩

theorem milliseconds_eq_ok_iff {d : Duration} : milliseconds key v = .ok d ↔ IsMillis v d := by
  have hbound : Nat.pow 2 64 = 2 ^ 64 := rfl
  unfold milliseconds IsMillis
  rw [hbound]
  constructor
  · intro h
    split at h
    · next n hn =>
      cases h
      obtain ⟨ds, hds, hne, hall, hlt, rfl⟩ := unsigned?_eq_some_iff.mp hn
      exact ⟨ds, hds, hne, hall, hlt, rfl⟩
    · cases h
  · rintro ⟨ds, hds, hne, hall, hlt, rfl⟩
    rw [unsigned?_eq_some_iff.mpr ⟨ds, hds, hne, hall, hlt, rfl⟩]

theorem milliseconds_eq_error_iff : milliseconds key v = .error e ↔
    (∀ d, ¬ IsMillis v d) ∧ e = .notMilliseconds key v := by
  simp only [← @milliseconds_eq_ok_iff key]
  unfold milliseconds
  split <;> simp [eq_comm]

theorem argument?_eq_some_iff {s : String} {x : Binary64} : Sampling.argument? s = some x ↔
    Binary64.parse? (Text.trim s) = some x ∧ x.isFinite = true := by
  simp [Sampling.argument?, Option.filter_eq_some_iff]

theorem parse?_of_plain {name : String} {p : Sampling} (arg : Option String)
    (h : (Text.lower name, p) ∈ plainPolicies) : Sampling.parse? name arg = some p := by
  simp only [plainPolicies, List.mem_cons, Prod.mk.injEq, List.not_mem_nil, or_false] at h
  unfold Sampling.parse?
  rcases h with ⟨h, rfl⟩ | ⟨h, rfl⟩ | ⟨h, rfl⟩ | ⟨h, rfl⟩ <;> simp [h]

theorem parse?_of_ratio {name : String} (arg : Option String) (h : Text.lower name ∈ ratioNames) :
    Sampling.parse? name arg = Sampling.parse?.ratioOf arg := by
  simp only [ratioNames, List.mem_cons, List.not_mem_nil, or_false] at h
  unfold Sampling.parse?
  rcases h with h | h <;> simp [h]

theorem asks_of_ratioOf {name : String} {arg : Option String} {p : Sampling}
    (h : Text.lower name ∈ ratioNames) (hp : Sampling.parse?.ratioOf arg = some p) :
    Asks name arg p := by
  cases arg with
  | none =>
    cases hp
    exact .all h rfl
  | some s =>
    rw [Sampling.parse?.ratioOf] at hp
    obtain ⟨x, hx, rfl⟩ := Option.map_eq_some_iff.mp hp
    obtain ⟨hparse, hfinite⟩ := argument?_eq_some_iff.mp hx
    exact .part h rfl hparse hfinite

theorem parse?_eq_some_iff {name : String} {arg : Option String} {p : Sampling} :
    Sampling.parse? name arg = some p ↔ Asks name arg p := by
  constructor
  · intro hp
    by_cases hratio : Text.lower name ∈ ratioNames
    · rw [parse?_of_ratio arg hratio] at hp
      exact asks_of_ratioOf hratio hp
    · refine .plain ?_
      unfold Sampling.parse? at hp
      split at hp <;> simp_all [plainPolicies, ratioNames]
  · intro hp
    cases hp with
    | plain h => exact parse?_of_plain arg h
    | all h harg =>
      rw [parse?_of_ratio arg h, harg]
      rfl
    | part h harg hx hfinite =>
      rw [parse?_of_ratio arg h, harg, Sampling.parse?.ratioOf,
        argument?_eq_some_iff.mpr ⟨hx, hfinite⟩, Option.map_some]

end Values

section Settings

variable {f : String → Option String} {s : Setting} {e : ConfigFault}

def Setting.read (f : String → Option String) (s : Setting) :
    Except ConfigFault (ExporterConfig → ExporterConfig) :=
  match f s.name with
  | none => .ok id
  | some v => s.change v

def applied (f : String → Option String) (c : ExporterConfig) (s : Setting) : ExporterConfig :=
  match s.read f with
  | .ok change => change c
  | .error _ => c

theorem run_apply (c : ExporterConfig) (s : Setting) :
    (s.apply c).run f = ([s.name], (s.read f).map fun change ↦ change c) := by
  unfold Setting.apply Setting.read Query.run
  cases f s.name <;> rfl

theorem run_settings_of_ok {ss : List Setting} (h : ∀ s ∈ ss, ∃ change, s.read f = .ok change)
    (c : ExporterConfig) :
    (ss.foldlM Setting.apply c).run f = (ss.map (·.name), .ok (ss.foldl (applied f) c)) := by
  induction ss generalizing c with
  | nil => rfl
  | cons s ss ih =>
    obtain ⟨⟨change, hs⟩, hss⟩ := List.forall_mem_cons.mp h
    have happlied : applied f c s = change c := by rw [applied, hs]
    rw [List.foldlM_cons, Query.run_bind, run_apply, hs, List.foldl_cons, happlied]
    simp only [Except.map, ih hss, List.map_cons, List.singleton_append]

theorem run_settings_of_error {before after : List Setting}
    (h : ∀ s ∈ before, ∃ change, s.read f = .ok change) (hs : s.read f = .error e)
    (c : ExporterConfig) : ((before ++ s :: after).foldlM Setting.apply c).run f =
      (before.map (·.name) ++ [s.name], .error e) := by
  induction before generalizing c with
  | nil =>
    rw [List.nil_append, List.foldlM_cons, Query.run_bind, run_apply, hs]
    rfl
  | cons b before ih =>
    obtain ⟨⟨change, hb⟩, hbefore⟩ := List.forall_mem_cons.mp h
    rw [List.cons_append, List.foldlM_cons, Query.run_bind, run_apply, hb]
    simp only [Except.map, ih hbefore, List.map_cons, List.cons_append, List.nil_append]

def value? {α : Type} (v : Option String) (read : String → Except ConfigFault α) : Option α :=
  v.bind fun v ↦ (read v).toOption

theorem applied_parsed {α : Type} {name : String} {read : String → Except ConfigFault α}
    (put : α → ExporterConfig → ExporterConfig) (get : ExporterConfig → α)
    (hput : ∀ c, put (get c) c = c) (c : ExporterConfig) :
    applied f c ⟨name, fun v ↦ (read v).map put⟩ =
      put ((value? (f name) read).getD (get c)) c := by
  unfold applied Setting.read value?
  dsimp only
  cases f name with
  | none => exact (hput c).symm
  | some v => cases h : read v <;> simp [h, hput, Except.map, Except.toOption]

theorem applied_taken {α : Type} {name : String} (stands : String → α)
    (put : α → ExporterConfig → ExporterConfig) (get : ExporterConfig → α)
    (hput : ∀ c, put (get c) c = c) (c : ExporterConfig) :
    applied f c ⟨name, fun v ↦ .ok (put (stands v))⟩ =
      put (((f name).map stands).getD (get c)) c := by
  unfold applied Setting.read
  cases f name with
  | none => exact (hput c).symm
  | some v => rfl

theorem foldl_settings (f : String → Option String) : settings.foldl (applied f) {} =
    { serviceName := (f "OTEL_SERVICE_NAME").getD ""
      environment := (f "DEPLOYMENT_ENVIRONMENT").getD ""
      endpoint := ((f "OTEL_EXPORTER_OTLP_ENDPOINT").map Text.trim).getD ""
      insecure := (value? (f "OTEL_EXPORTER_OTLP_INSECURE")
        (boolean "OTEL_EXPORTER_OTLP_INSECURE")).getD false
      tlsCert := f "OTEL_EXPORTER_OTLP_TLS_CERT"
      tlsKey := f "OTEL_EXPORTER_OTLP_TLS_KEY"
      tlsCa := f "OTEL_EXPORTER_OTLP_TLS_CA"
      batchTimeout := (value? (f "OTEL_BSP_SCHEDULE_DELAY")
        (milliseconds "OTEL_BSP_SCHEDULE_DELAY")).getD (.ofSeconds 5)
      metricInterval := (value? (f "OTEL_METRIC_EXPORT_INTERVAL")
        (milliseconds "OTEL_METRIC_EXPORT_INTERVAL")).getD (.ofSeconds 10) } := by
  have getD_some (o : Option String) : (o.map some).getD none = o := by cases o <;> rfl
  simp only [settings, List.foldl_cons, List.foldl_nil]
  rw [applied_taken (fun v ↦ v) (fun v c ↦ { c with serviceName := v }) (·.serviceName),
    applied_taken (fun v ↦ v) (fun v c ↦ { c with environment := v }) (·.environment),
    applied_taken Text.trim (fun v c ↦ { c with endpoint := v }) (·.endpoint),
    applied_parsed (fun b c ↦ { c with insecure := b }) (·.insecure),
    applied_taken some (fun v c ↦ { c with tlsCert := v }) (·.tlsCert),
    applied_taken some (fun v c ↦ { c with tlsKey := v }) (·.tlsKey),
    applied_taken some (fun v c ↦ { c with tlsCa := v }) (·.tlsCa),
    applied_parsed (fun d c ↦ { c with batchTimeout := d }) (·.batchTimeout),
    applied_parsed (fun d c ↦ { c with metricInterval := d }) (·.metricInterval)]
  · simp only [Option.map_id', getD_some]
  all_goals exact fun _ ↦ rfl

def configured (f : String → Option String) : ExporterConfig :=
  { settings.foldl (applied f) {} with
    sampling := (f "OTEL_TRACES_SAMPLER").bind
      fun name ↦ Sampling.parse? name (f "OTEL_TRACES_SAMPLER_ARG") }

end Settings

section Faults

variable {f : String → Option String} {name : String} {e : ConfigFault}

theorem malformed_insecure_iff : Malformed f "OTEL_EXPORTER_OTLP_INSECURE" e ↔
    ∃ v, f "OTEL_EXPORTER_OTLP_INSECURE" = some v ∧
      boolean "OTEL_EXPORTER_OTLP_INSECURE" v = .error e := by
  constructor
  · intro h
    cases h with
    | truth _ set h => exact ⟨_, set, boolean_eq_error_iff.mpr ⟨h, rfl⟩⟩
    | millis hname => simp at hname
    | sampler hname => simp at hname
  · rintro ⟨v, set, h⟩
    obtain ⟨hnone, rfl⟩ := boolean_eq_error_iff.mp h
    exact .truth rfl set hnone

theorem malformed_millis_iff
    (hname : name ∈ ["OTEL_BSP_SCHEDULE_DELAY", "OTEL_METRIC_EXPORT_INTERVAL"]) :
    Malformed f name e ↔ ∃ v, f name = some v ∧ milliseconds name v = .error e := by
  constructor
  · intro h
    cases h with
    | truth h => simp [h] at hname
    | millis _ set h => exact ⟨_, set, milliseconds_eq_error_iff.mpr ⟨h, rfl⟩⟩
    | sampler h => simp [h] at hname
  · rintro ⟨v, set, h⟩
    obtain ⟨hnone, rfl⟩ := milliseconds_eq_error_iff.mp h
    exact .millis hname set hnone

theorem malformed_sampler_iff : Malformed f "OTEL_TRACES_SAMPLER" e ↔
    ∃ v, f "OTEL_TRACES_SAMPLER" = some v ∧
      Sampling.parse? v (f "OTEL_TRACES_SAMPLER_ARG") = none ∧
      e = .unsupportedSampler "OTEL_TRACES_SAMPLER" v (f "OTEL_TRACES_SAMPLER_ARG") := by
  have parse?_eq_none_iff (v arg) :
      Sampling.parse? v arg = none ↔ ∀ p, ¬ Asks v arg p := by
    simp only [← parse?_eq_some_iff, Option.eq_none_iff_forall_ne_some, ne_eq]
  simp only [parse?_eq_none_iff]
  constructor
  · intro h
    cases h with
    | truth hname => simp at hname
    | millis hname => simp at hname
    | sampler _ set h => exact ⟨_, set, h, rfl⟩
  · rintro ⟨v, set, h, rfl⟩
    exact .sampler rfl set h

/-- The names whose values have to stand for something. The others are taken as they are. -/
def checked : List String :=
  ["OTEL_EXPORTER_OTLP_INSECURE", "OTEL_BSP_SCHEDULE_DELAY", "OTEL_METRIC_EXPORT_INTERVAL",
    "OTEL_TRACES_SAMPLER"]

theorem Malformed.mem_checked (h : Malformed f name e) : name ∈ checked := by
  cases h with
  | truth hname => simp [hname, checked]
  | millis hname =>
    simp only [List.mem_cons, List.not_mem_nil, or_false] at hname
    rcases hname with rfl | rfl <;> simp [checked]
  | sampler hname => simp [hname, checked]

theorem Malformed.mem_names (h : Malformed f name e) : name ∈ names :=
  (by decide : ∀ n ∈ checked, n ∈ names) name h.mem_checked

theorem Malformed.reason (h : Malformed f name e) : ∃ rest, e.reason = name ++ ": " ++ rest := by
  have boolean : ": expected a boolean, got '" = ": " ++ "expected a boolean, got '" := rfl
  have millis : ": expected milliseconds, got '" = ": " ++ "expected milliseconds, got '" := rfl
  have sampler : ": unsupported sampler '" = ": " ++ "unsupported sampler '" := rfl
  cases h with
  | truth | millis | sampler =>
    simp only [ConfigFault.reason, boolean, millis, sampler, String.append_assoc]
    exact ⟨_, rfl⟩

theorem read_eq_error_iff {s : Setting} (hs : s ∈ settings) :
    s.read f = .error e ↔ Malformed f s.name e := by
  have plain {n : String} (hn : n ∉ checked) (put : String → ExporterConfig → ExporterConfig) :
      Setting.read f ⟨n, fun v ↦ .ok (put v)⟩ = .error e ↔ Malformed f n e := by
    refine iff_of_false ?_ fun h ↦ hn h.mem_checked
    unfold Setting.read
    cases f n <;> simp
  have parsed {α : Type} (n : String) (read : String → Except ConfigFault α)
      (put : α → ExporterConfig → ExporterConfig) :
      Setting.read f ⟨n, fun v ↦ (read v).map put⟩ = .error e ↔
        ∃ v, f n = some v ∧ read v = .error e := by
    unfold Setting.read
    dsimp only
    cases f n with
    | none => simp
    | some v => cases h : read v <;> simp [h, Except.map]
  simp only [settings, List.mem_cons, List.not_mem_nil, or_false] at hs
  rcases hs with rfl | rfl | rfl | rfl | rfl | rfl | rfl | rfl | rfl
  exacts [plain (by decide) _, plain (by decide) _, plain (by decide) _,
    (parsed _ _ _).trans malformed_insecure_iff.symm, plain (by decide) _, plain (by decide) _,
    plain (by decide) _, (parsed _ _ _).trans (malformed_millis_iff (by simp)).symm,
    (parsed _ _ _).trans (malformed_millis_iff (by simp)).symm]

theorem exists_read {s : Setting} (hs : s ∈ settings) (h : ∀ e, ¬ Malformed f s.name e) :
    ∃ change, s.read f = .ok change := by
  cases hread : s.read f with
  | ok change => exact ⟨change, rfl⟩
  | error e => exact absurd ((read_eq_error_iff hs).mp hread) (h e)

end Faults

section Order

variable {f : String → Option String} {name : String} {e : ConfigFault}

theorem before_eq {pre post : List String} (h : names = pre ++ name :: post) :
    before name = pre := by
  have hnodup : (pre ++ name :: post).Nodup := h ▸ (by decide : names.Nodup)
  have hpre : ∀ n ∈ pre, (n != name) = true := by
    intro n hn
    have := List.disjoint_of_nodup_append hnodup hn
    simp_all
  rw [before, h, List.takeWhile_append_of_pos hpre, List.takeWhile_cons_of_neg (by simp),
    List.append_nil]

theorem names_eq (h : name ∈ names) : ∃ post, names = before name ++ name :: post := by
  obtain ⟨pre, post, hnames⟩ := List.append_of_mem h
  exact ⟨post, before_eq hnames ▸ hnames⟩

theorem names_eq_settings : names = settings.map (·.name) ++ ["OTEL_TRACES_SAMPLER"] := rfl

theorem before_setting {pre post : List Setting} {s : Setting} (h : settings = pre ++ s :: post) :
    before s.name = pre.map (·.name) := by
  have hnames : names =
      pre.map (·.name) ++ s.name :: (post.map (·.name) ++ ["OTEL_TRACES_SAMPLER"]) := by
    rw [names_eq_settings, h, List.map_append, List.map_cons, List.append_assoc,
      List.cons_append]
  exact before_eq hnames

theorem exists_firstMalformed (h : Malformed f name e) : ∃ name e, FirstMalformed f name e := by
  classical
  have hsome : (names.find? fun n ↦ ∃ e, Malformed f n e).isSome :=
    List.find?_isSome.mpr ⟨name, h.mem_names, decide_eq_true ⟨e, h⟩⟩
  obtain ⟨n, hn⟩ := Option.isSome_iff_exists.mp hsome
  obtain ⟨hmalformed, pre, post, hnames, hpre⟩ := List.find?_eq_some_iff_append.mp hn
  obtain ⟨e', he'⟩ := of_decide_eq_true hmalformed
  refine ⟨n, e', he', fun m hm e'' hm' ↦ ?_⟩
  rw [before_eq hnames] at hm
  have hnone : ¬ ∃ e, Malformed f m e := by simpa using hpre m hm
  exact hnone ⟨e'', hm'⟩

end Order

section Runs

variable {f : String → Option String} {name : String} {e : ConfigFault}

theorem run_sampler_of_malformed (h : Malformed f "OTEL_TRACES_SAMPLER" e) (c : ExporterConfig) :
    (sampler c).run f = ("OTEL_TRACES_SAMPLER" :: argumentAsked f, .error e) := by
  obtain ⟨v, set, hnone, rfl⟩ := malformed_sampler_iff.mp h
  simp only [sampler, samplerName, samplerArgument, Query.run, argumentAsked, set, hnone]
  rfl

theorem run_sampler_of_wellFormed (h : ∀ e, ¬ Malformed f "OTEL_TRACES_SAMPLER" e)
    (c : ExporterConfig) : (sampler c).run f = ("OTEL_TRACES_SAMPLER" :: argumentAsked f,
      .ok { c with sampling := ((f "OTEL_TRACES_SAMPLER").bind
        fun name ↦ Sampling.parse? name (f "OTEL_TRACES_SAMPLER_ARG")).or c.sampling }) := by
  simp only [malformed_sampler_iff, not_exists, not_and] at h
  cases set : f "OTEL_TRACES_SAMPLER" with
  | none => simp [sampler, samplerName, Query.run, argumentAsked, set]
  | some v =>
    obtain ⟨p, hp⟩ : ∃ p, Sampling.parse? v (f "OTEL_TRACES_SAMPLER_ARG") = some p :=
      Option.ne_none_iff_exists'.mp fun hnone ↦ h _ v set hnone rfl
    simp [sampler, samplerName, samplerArgument, Query.run, argumentAsked, set, hp]

theorem run_query_of_firstMalformed (h : FirstMalformed f name e) : query.run f =
    (before name ++ name :: if name = "OTEL_TRACES_SAMPLER" then argumentAsked f else [],
      .error e) := by
  obtain ⟨hmalformed, hfirst⟩ := h
  have hname := hmalformed.mem_names
  rw [names_eq_settings, List.mem_append, List.mem_singleton, List.mem_map] at hname
  rcases hname with ⟨s, hs, rfl⟩ | rfl
  · -- The settings in front of it are read, and the fold stops at it.
    obtain ⟨pre, post, hsettings⟩ := List.append_of_mem hs
    have hbefore : before s.name = pre.map (·.name) := before_setting hsettings
    have hpre : ∀ r ∈ pre, ∃ change, r.read f = .ok change := fun r hr ↦
      exists_read (hsettings ▸ List.mem_append_left _ hr)
        (hfirst _ (hbefore ▸ List.mem_map_of_mem hr))
    have hsampler : s.name ≠ "OTEL_TRACES_SAMPLER" :=
      (by decide : ∀ n ∈ settings.map (·.name), n ≠ "OTEL_TRACES_SAMPLER") _
        (List.mem_map_of_mem hs)
    rw [query, Query.run_bind, hsettings,
      run_settings_of_error hpre ((read_eq_error_iff hs).mpr hmalformed), if_neg hsampler, hbefore]
  · -- All settings are read, and the sampler has the last word.
    have hbefore : before "OTEL_TRACES_SAMPLER" = settings.map (·.name) := by decide
    have hall : ∀ s ∈ settings, ∃ change, s.read f = .ok change := fun s hs ↦
      exists_read hs (hfirst _ (hbefore ▸ List.mem_map_of_mem hs))
    rw [query, Query.run_bind, run_settings_of_ok hall]
    dsimp only
    rw [run_sampler_of_malformed hmalformed, if_pos rfl, hbefore]

theorem run_query_of_wellFormed (h : ∀ name e, ¬ Malformed f name e) :
    query.run f = (names ++ argumentAsked f, .ok (configured f)) := by
  have hall : ∀ s ∈ settings, ∃ change, s.read f = .ok change := fun s hs ↦
    exists_read hs (h s.name)
  have hsampling : (settings.foldl (applied f) {}).sampling = none := by rw [foldl_settings]
  rw [query, Query.run_bind, run_settings_of_ok hall]
  dsimp only
  rw [run_sampler_of_wellFormed (h _), hsampling, Option.or_none, names_eq_settings,
    List.append_assoc, List.singleton_append]
  rfl

end Runs

section Outcome

variable {f : String → Option String} {c : ExporterConfig}

theorem reads_iff {α : Type} {value : Option String} {default a : α} {stands : String → α → Prop}
    {read : String → Except ConfigFault α} (hread : ∀ v a, read v = .ok a ↔ stands v a) :
    Reads value default stands a ↔
      (∀ v, value = some v → ∃ a, stands v a) ∧ a = (value? value read).getD default := by
  cases value with
  | none => simp [Reads, value?]
  | some v =>
    simp only [Reads, Option.some.injEq, forall_eq', ← hread]
    cases h : read v <;> simp [value?, h, Except.toOption, eq_comm]

theorem reads_sampling_iff {value arg : Option String} {p : Option Sampling} :
    Reads value none (fun name p ↦ ∃ q, p = some q ∧ Asks name arg q) p ↔
      (∀ v, value = some v → ∃ q, Asks v arg q) ∧
        p = value.bind fun name ↦ Sampling.parse? name arg := by
  cases value with
  | none => simp [Reads]
  | some v =>
    simp only [Reads, Option.some.injEq, forall_eq', ← parse?_eq_some_iff, Option.bind_some]
    cases Sampling.parse? v arg <;> simp

theorem wellFormed_iff : (∀ name e, ¬ Malformed f name e) ↔
    (∀ v, f "OTEL_EXPORTER_OTLP_INSECURE" = some v → ∃ b, IsTruth v b) ∧
    (∀ v, f "OTEL_BSP_SCHEDULE_DELAY" = some v → ∃ d, IsMillis v d) ∧
    (∀ v, f "OTEL_METRIC_EXPORT_INTERVAL" = some v → ∃ d, IsMillis v d) ∧
    ∀ v, f "OTEL_TRACES_SAMPLER" = some v → ∃ p, Asks v (f "OTEL_TRACES_SAMPLER_ARG") p := by
  constructor
  · intro h
    refine ⟨fun v set ↦ ?_, fun v set ↦ ?_, fun v set ↦ ?_, fun v set ↦ ?_⟩
    all_goals by_contra hnone
    · exact h _ _ (.truth rfl set (not_exists.mp hnone))
    · exact h _ _ (.millis (by simp) set (not_exists.mp hnone))
    · exact h _ _ (.millis (by simp) set (not_exists.mp hnone))
    · exact h _ _ (.sampler rfl set (not_exists.mp hnone))
  · rintro ⟨htruth, hdelay, hinterval, hsampler⟩ name e h
    cases h with
    | truth hname set hnone =>
      subst hname
      exact not_exists.mpr hnone (htruth _ set)
    | millis hname set hnone =>
      simp only [List.mem_cons, List.not_mem_nil, or_false] at hname
      rcases hname with rfl | rfl
      · exact not_exists.mpr hnone (hdelay _ set)
      · exact not_exists.mpr hnone (hinterval _ set)
    | sampler hname set hnone =>
      subst hname
      exact not_exists.mpr hnone (hsampler _ set)

theorem fromLookup_iff :
    FromLookup f c ↔ (∀ name e, ¬ Malformed f name e) ∧ c = configured f := by
  have insecure {b} : Reads (f "OTEL_EXPORTER_OTLP_INSECURE") false IsTruth b ↔ _ :=
    reads_iff fun _ _ ↦ @boolean_eq_ok_iff "OTEL_EXPORTER_OTLP_INSECURE" _ _
  have millis {name default d} : Reads (f name) default IsMillis d ↔ _ :=
    reads_iff fun _ _ ↦ @milliseconds_eq_ok_iff name _ _
  rw [wellFormed_iff, configured, foldl_settings]
  constructor
  · intro h
    obtain ⟨htruth, hinsecure⟩ := insecure.mp h.insecure
    obtain ⟨hdelay, hbatch⟩ := millis.mp h.batchTimeout
    obtain ⟨hinterval, hmetric⟩ := millis.mp h.metricInterval
    obtain ⟨hsampler, hsampling⟩ := reads_sampling_iff.mp h.sampling
    refine ⟨⟨htruth, hdelay, hinterval, hsampler⟩, ?_⟩
    obtain ⟨hname, henvironment, hendpoint, -, hcert, hkey, hca, -, -, -⟩ := h
    cases c
    simp_all only
  · rintro ⟨⟨htruth, hdelay, hinterval, hsampler⟩, rfl⟩
    exact ⟨rfl, rfl, rfl, insecure.mpr ⟨htruth, rfl⟩, rfl, rfl, rfl, millis.mpr ⟨hdelay, rfl⟩,
      millis.mpr ⟨hinterval, rfl⟩, reads_sampling_iff.mpr ⟨hsampler, rfl⟩⟩

theorem run_query_of_fromLookup (h : FromLookup f c) :
    query.run f = (names ++ argumentAsked f, .ok c) := by
  obtain ⟨hwellFormed, rfl⟩ := fromLookup_iff.mp h
  exact run_query_of_wellFormed hwellFormed

theorem fromLookup_or_firstMalformed (f : String → Option String) :
    (∃ c, FromLookup f c) ∨ ∃ name e, FirstMalformed f name e := by
  by_cases h : ∃ name e, Malformed f name e
  · obtain ⟨name, e, h⟩ := h
    exact .inr (exists_firstMalformed h)
  · exact .inl ⟨configured f, fromLookup_iff.mpr ⟨by simpa using h, rfl⟩⟩

theorem ofLookup_eq_ok_iff : ofLookup f = .ok c ↔ FromLookup f c := by
  constructor
  · intro h
    rcases fromLookup_or_firstMalformed f with ⟨c', hc'⟩ | ⟨name, e, he⟩
    · rw [ofLookup, run_query_of_fromLookup hc'] at h
      cases h
      exact hc'
    · rw [ofLookup, run_query_of_firstMalformed he] at h
      cases h
  · intro h
    rw [ofLookup, run_query_of_fromLookup h]

theorem ofLookup_eq_error_iff {e : ConfigFault} :
    ofLookup f = .error e ↔ ∃ name, FirstMalformed f name e := by
  constructor
  · intro h
    rcases fromLookup_or_firstMalformed f with ⟨c', hc'⟩ | ⟨name, e', he'⟩
    · rw [ofLookup, run_query_of_fromLookup hc'] at h
      cases h
    · rw [ofLookup, run_query_of_firstMalformed he'] at h
      cases h
      exact ⟨name, he'⟩
  · rintro ⟨name, h⟩
    rw [ofLookup, run_query_of_firstMalformed h]

theorem ofLookup_isOk_iff : (∃ c, ofLookup f = .ok c) ↔ ∀ name e, ¬ Malformed f name e := by
  simp only [ofLookup_eq_ok_iff, fromLookup_iff, exists_and_left, exists_eq, and_true]

theorem asked_isPrefix (f : String → Option String) :
    (query.run f).1 <+: names ++ argumentAsked f := by
  rcases fromLookup_or_firstMalformed f with ⟨c, hc⟩ | ⟨name, e, he⟩
  · rw [run_query_of_fromLookup hc]
  · rw [run_query_of_firstMalformed he]
    by_cases hsampler : name = "OTEL_TRACES_SAMPLER"
    · have hnames : names = before "OTEL_TRACES_SAMPLER" ++ ["OTEL_TRACES_SAMPLER"] := by decide
      rw [if_pos hsampler, hsampler, hnames, List.append_assoc, List.singleton_append]
    · obtain ⟨post, hnames⟩ := names_eq he.1.mem_names
      rw [if_neg hsampler]
      refine ⟨post ++ argumentAsked f, ?_⟩
      conv_rhs => rw [hnames]
      simp

theorem nodup_names (f : String → Option String) : (names ++ argumentAsked f).Nodup := by
  unfold argumentAsked
  split <;> decide

end Outcome

section Influence

variable {f g : String → Option String} {name : String} {p : Sampling}

theorem run_settings_congr {ss : List Setting} (h : ∀ s ∈ ss, g s.name = f s.name)
    (c : ExporterConfig) :
    (ss.foldlM Setting.apply c).run g = (ss.foldlM Setting.apply c).run f := by
  induction ss generalizing c with
  | nil => rfl
  | cons s ss ih =>
    obtain ⟨hs, hss⟩ := List.forall_mem_cons.mp h
    have hread : s.read g = s.read f := by rw [Setting.read, Setting.read, hs]
    simp only [List.foldlM_cons, Query.run_bind, run_apply, hread, ih hss]

theorem run_sampler_of_plain (set : f "OTEL_TRACES_SAMPLER" = some name)
    (h : (Text.lower name, p) ∈ plainPolicies) (c : ExporterConfig) :
    (sampler c).run f = (["OTEL_TRACES_SAMPLER", "OTEL_TRACES_SAMPLER_ARG"],
      .ok { c with sampling := some p }) := by
  simp only [sampler, samplerName, samplerArgument, Query.run, set, parse?_of_plain _ h]

theorem run_query_of_plain (set : f "OTEL_TRACES_SAMPLER" = some name)
    (h : (Text.lower name, p) ∈ plainPolicies)
    (hg : ∀ n, n ≠ "OTEL_TRACES_SAMPLER_ARG" → g n = f n) : query.run g = query.run f := by
  have hsettings : ∀ s ∈ settings, g s.name = f s.name := fun s hs ↦
    hg _ ((by decide : ∀ n ∈ settings.map (·.name), n ≠ "OTEL_TRACES_SAMPLER_ARG") _
      (List.mem_map_of_mem hs))
  have hsampler (c) : (sampler c).run g = (sampler c).run f := by
    rw [run_sampler_of_plain set h, run_sampler_of_plain ((hg _ (by decide)).trans set) h]
  simp only [query, Query.run_bind, run_settings_congr hsettings, hsampler]

end Influence

/-- A lookup gives the configuration that the settings say, and gives one exactly when no value is
malformed; else it gives the fault of the first malformed one, and begins it with that name. The
names are asked for in order, each at most once and none after a malformed one; nothing else
matters, nor does the argument of a sampler that takes no ratio. -/
theorem query_settled (f : String → Option String) :
    (query.run f).1 <+: names ++ argumentAsked f ∧ (query.run f).1.Nodup ∧
    (∀ c, ofLookup f = .ok c ↔ FromLookup f c) ∧
    ((∃ c, ofLookup f = .ok c) ↔ ∀ name e, ¬ Malformed f name e) ∧
    (∀ e, ofLookup f = .error e ↔ ∃ name, FirstMalformed f name e) ∧
    (∀ c, FromLookup f c → (query.run f).1 = names ++ argumentAsked f) ∧
    (∀ name e, FirstMalformed f name e →
      (query.run f).1 = before name ++
        name :: (if name = "OTEL_TRACES_SAMPLER" then argumentAsked f else []) ∧
      ∃ rest, e.reason = name ++ ": " ++ rest) ∧
    (∀ g, (∀ n ∈ (query.run f).1, g n = f n) → query.run g = query.run f) ∧
    ∀ name p, f "OTEL_TRACES_SAMPLER" = some name → (Text.lower name, p) ∈ plainPolicies →
      ∀ g, (∀ n, n ≠ "OTEL_TRACES_SAMPLER_ARG" → g n = f n) → query.run g = query.run f := by
  refine ⟨asked_isPrefix f, (asked_isPrefix f).sublist.nodup (nodup_names f),
    fun _ ↦ ofLookup_eq_ok_iff, ofLookup_isOk_iff, fun _ ↦ ofLookup_eq_error_iff, fun c h ↦ ?_,
    fun name e h ↦ ⟨?_, h.1.reason⟩, fun g ↦ query.run_congr,
    fun name p set hplain g ↦ run_query_of_plain set hplain⟩
  · rw [run_query_of_fromLookup h]
  · rw [run_query_of_firstMalformed h]

example :
    let f : String → Option String := fun n ↦
      if n = "OTEL_EXPORTER_OTLP_INSECURE" then some " Perhaps"
      else if n = "OTEL_TRACES_SAMPLER" then some "ratio" else none
    query.run f = (names.take 4, .error (.notBoolean "OTEL_EXPORTER_OTLP_INSECURE" "perhaps")) := by
  decide +kernel

end ExporterConfig

end Telemetry
