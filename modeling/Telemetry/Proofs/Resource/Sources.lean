import Mathlib
import Telemetry.Proofs.Keyed
import Telemetry.Proofs.Text.Split
import Telemetry.Resource

namespace Telemetry.Resource

inductive Owner (vars : String → Option String) (name : String) : Prop
  | user (set : vars "USER" = some name) (h : name ≠ "")
  | username (unset : ∀ user, vars "USER" = some user → user = "")
      (set : vars "USERNAME" = some name) (h : name ≠ "")

inductive Fact (m : Machine) (vars : String → Option String) : String → String → Prop
  | arch : Fact m vars "host.arch" (archName m.arch)
  | system : Fact m vars "os.type" m.system
  | hostName {name : String} (h : m.hostName = some name) : Fact m vars "host.name" name
  | pid : Fact m vars "process.pid" m.pid.repr
  | runtime : Fact m vars "process.runtime.name" "rust"
  | executableName {name : String} (h : m.executableName = some name) :
      Fact m vars "process.executable.name" name
  | executablePath {path : String} (h : m.executablePath = some path) :
      Fact m vars "process.executable.path" path
  | owner {name : String} (h : Owner vars name) : Fact m vars "process.owner" name

def IsEntry (part : List Char) (key value : String) : Prop :=
  ∃ k v, part = k ++ '=' :: v ∧ '=' ∉ k ∧ '=' ∉ v ∧
    key = String.ofList (Text.trimChars k) ∧ value = String.ofList (Text.trimChars v)

/-- The last well-formed part for a key, of those between the commas of a variable. -/
def Given (vars : String → Option String) (key value : String) : Prop :=
  ∃ text before part after, vars "OTEL_RESOURCE_ATTRIBUTES" = some text ∧
    text.toList.splitOn ',' = before ++ part :: after ∧ IsEntry part key value ∧
    ∀ later ∈ after, ∀ v, ¬ IsEntry later key v

inductive Source where
  | config
  | facts
  | user
  | library

namespace Source

/-- The strongest source has the lowest rank. -/
def rank : Source → Nat
  | config => 0
  | facts => 1
  | user => 2
  | library => 3

def Defines (c : ExporterConfig) (m : Machine) (vars : String → Option String) (key value : String) :
    Source → Prop
  | config => key = "service.name" ∧ value = c.serviceName ∨
      key = "deployment.environment" ∧ value = c.environment
  | facts => Fact m vars key value
  | user => Given vars key value
  | library => key = "telemetry.sdk.name" ∧ value = "opentelemetry" ∨
      key = "telemetry.sdk.language" ∧ value = "rust" ∨
      key = "telemetry.sdk.version" ∧ value = m.libraryVersion

end Source

/-- A source defines the value, and no stronger one defines the key. -/
def Prevails (c : ExporterConfig) (m : Machine) (vars : String → Option String)
    (key value : String) : Prop :=
  ∃ s : Source, s.Defines c m vars key value ∧
    ∀ stronger : Source, stronger.rank < s.rank → ∀ v, ¬ stronger.Defines c m vars key v

section Entries

variable {part : List Char} {key value : String}

theorem entry?_eq_some_iff : entry? part = some (key, value) ↔ IsEntry part key value := by
  constructor
  · intro h
    unfold entry? at h
    split at h
    · cases h
    · next k v hsplit =>
      split at h
      · cases h
      · next hv =>
        obtain ⟨hpart, hk⟩ := Text.splitFirst_eq_some_iff.mp hsplit
        cases h
        exact ⟨k, v, hpart, hk, by simpa using hv, rfl, rfl⟩
  · intro h
    obtain ⟨k, v, hpart, hk, hv, rfl, rfl⟩ := h
    unfold entry?
    rw [Text.splitFirst_eq_some_iff.mpr ⟨hpart, hk⟩]
    simp [hv]

theorem get?_reverse_filterMap_iff {parts : List (List Char)} :
    Keyed.get? key (parts.filterMap entry?).reverse = some value ↔
      ∃ before part after, parts = before ++ part :: after ∧ IsEntry part key value ∧
        ∀ later ∈ after, ∀ v, ¬ IsEntry later key v := by
  have habsent {after : List (List Char)} : key ∉ (after.filterMap entry?).map (·.1) ↔
      ∀ later ∈ after, ∀ v, ¬ IsEntry later key v := by
    simp only [← entry?_eq_some_iff, List.mem_map, List.mem_filterMap, Prod.exists,
      exists_eq_right, exists_and_right, not_exists, not_and]
    constructor
    · intro h later hlater v
      exact h v later hlater
    · intro h v later hlater
      exact h later hlater v
  rw [Keyed.get?_reverse_eq_some_iff]
  constructor
  · intro h
    obtain ⟨_, _, hparts, hlast⟩ := h
    obtain ⟨before, others, rfl, -, hothers⟩ := List.filterMap_eq_append_iff.mp hparts
    obtain ⟨skipped, part, after, rfl, -, hpart, rfl⟩ := List.filterMap_eq_cons_iff.mp hothers
    exact ⟨before ++ skipped, part, after, by simp, entry?_eq_some_iff.mp hpart, habsent.mp hlast⟩
  · intro h
    obtain ⟨before, part, after, rfl, hpart, hlast⟩ := h
    refine ⟨before.filterMap entry?, after.filterMap entry?, ?_, habsent.mpr hlast⟩
    rw [List.filterMap_append, List.filterMap_cons_some (entry?_eq_some_iff.mpr hpart)]

end Entries

section Values

variable {c : ExporterConfig} {m : Machine} {vars : String → Option String} {key value : String}

theorem filter_eq_some_iff {o : Option String} {name : String} :
    o.filter (!·.isEmpty) = some name ↔ o = some name ∧ name ≠ "" := by
  simp [Option.filter_eq_some_iff]

theorem filter_eq_none_iff {o : Option String} :
    o.filter (!·.isEmpty) = none ↔ ∀ name, o = some name → name = "" := by
  simp [Option.filter_eq_none_iff]

theorem owner?_eq_some_iff {name : String} : owner? vars = some name ↔ Owner vars name := by
  constructor
  · intro h
    simp only [owner?, List.findSome?_cons, List.findSome?_nil] at h
    split at h
    · next huser =>
      cases h
      obtain ⟨set, hname⟩ := filter_eq_some_iff.mp huser
      exact .user set hname
    · next huser =>
      split at h
      · next husername =>
        cases h
        obtain ⟨set, hname⟩ := filter_eq_some_iff.mp husername
        exact .username (filter_eq_none_iff.mp huser) set hname
      · cases h
  · intro h
    cases h with
    | user set hname => simp [owner?, filter_eq_some_iff.mpr ⟨set, hname⟩]
    | username unset set hname =>
      simp [owner?, filter_eq_none_iff.mpr unset, filter_eq_some_iff.mpr ⟨set, hname⟩]

def Source.value? (c : ExporterConfig) (m : Machine) (vars : String → Option String) (key : String) :
    Source → Option String
  | config => Keyed.get? key (configAttributes c)
  | facts => Keyed.get? key (hostAttributes m ++ processAttributes m vars)
  | user => Keyed.get? key (userAttributes vars)
  | library => Keyed.get? key (libraryAttributes m)

def ownKeys : List String :=
  ["service.name", "deployment.environment", "host.arch", "os.type", "host.name", "process.pid",
    "process.runtime.name", "process.executable.name", "process.executable.path", "process.owner"]

theorem nodup_own (c : ExporterConfig) (m : Machine) (vars : String → Option String) :
    ((configAttributes c ++ (hostAttributes m ++ processAttributes m vars)).map (·.1)).Nodup := by
  have hkeys : ((configAttributes c ++ (hostAttributes m ++ processAttributes m vars)).map
      (·.1)).Sublist ownKeys := by
    unfold configAttributes hostAttributes processAttributes ownKeys
    cases m.hostName <;> cases m.executableName <;> cases m.executablePath <;>
      cases owner? vars <;> simp
  exact hkeys.nodup (by decide)

theorem mem_facts_iff :
    (key, value) ∈ hostAttributes m ++ processAttributes m vars ↔ Fact m vars key value := by
  constructor
  · intro h
    simp only [hostAttributes, processAttributes, List.cons_append, List.nil_append,
      List.append_assoc, List.mem_cons, List.mem_append, List.mem_map, Option.mem_toList,
      Prod.mk.injEq, exists_eq_right_right] at h
    obtain ⟨rfl, rfl⟩ | ⟨rfl, rfl⟩ | ⟨h, rfl⟩ | ⟨rfl, rfl⟩ | ⟨rfl, rfl⟩ | ⟨h, rfl⟩ | ⟨h, rfl⟩ |
      ⟨h, rfl⟩ := h
    · exact .arch
    · exact .system
    · exact .hostName h
    · exact .pid
    · exact .runtime
    · exact .executableName h
    · exact .executablePath h
    · exact .owner (owner?_eq_some_iff.mp h)
  · intro h
    cases h with
    | arch => simp [hostAttributes]
    | system => simp [hostAttributes]
    | hostName h => simp [hostAttributes, h]
    | pid => simp [processAttributes]
    | runtime => simp [processAttributes]
    | executableName h => simp [processAttributes, h]
    | executablePath h => simp [processAttributes, h]
    | owner h => simp [processAttributes, owner?_eq_some_iff.mpr h]

theorem Source.value?_eq_some_iff {s : Source} :
    s.value? c m vars key = some value ↔ s.Defines c m vars key value := by
  cases s with
  | config =>
    have hnodup : ((configAttributes c).map (·.1)).Nodup := by
      simp [configAttributes]
    rw [value?, Keyed.get?_eq_some_iff hnodup]
    simp [configAttributes, Defines]
  | facts =>
    have hnodup := List.Nodup.of_append_right (List.map_append ▸ nodup_own c m vars)
    rw [value?, Keyed.get?_eq_some_iff hnodup, mem_facts_iff]
    rfl
  | user =>
    unfold value? Defines Given userAttributes
    cases vars "OTEL_RESOURCE_ATTRIBUTES" with
    | none => simp [Keyed.get?]
    | some text =>
      rw [Keyed.get?_merge, Text.splitOn_eq]
      simp [Keyed.get?, get?_reverse_filterMap_iff]
  | library =>
    have hnodup : ((libraryAttributes m).map (·.1)).Nodup := by
      simp [libraryAttributes]
    rw [value?, Keyed.get?_eq_some_iff hnodup]
    simp [libraryAttributes, Defines]

theorem Source.value?_eq_none_iff {s : Source} :
    s.value? c m vars key = none ↔ ∀ v, ¬ s.Defines c m vars key v := by
  simp only [← value?_eq_some_iff, Option.eq_none_iff_forall_ne_some, ne_eq]

theorem nodup_attributes (c : ExporterConfig) (m : Machine) (vars : String → Option String) :
    ((describe c m vars).attributes.map (·.1)).Nodup := by
  have hlibrary : ((libraryAttributes m).map (·.1)).Nodup := by
    simp [libraryAttributes]
  apply Keyed.nodup_keys_merge
  exact Keyed.nodup_keys_merge hlibrary _

theorem get?_describe : (describe c m vars).get? key =
    ((Source.value? c m vars key .config).or (Source.value? c m vars key .facts)).or
      ((Source.value? c m vars key .user).or (Source.value? c m vars key .library)) := by
  have huser : ((userAttributes vars).map (·.1)).Nodup := by
    unfold userAttributes
    split
    · exact List.nodup_nil
    · apply Keyed.nodup_keys_merge
      exact List.nodup_nil
  change Keyed.get? key (Keyed.merge (Keyed.merge _ _) _) = _
  rw [List.append_assoc, Keyed.get?_merge, Keyed.get?_reverse (nodup_own c m vars),
    Keyed.get?_append, Keyed.get?_merge, Keyed.get?_reverse huser]
  rfl

theorem get?_eq_some_iff_prevails :
    (describe c m vars).get? key = some value ↔ Prevails c m vars key value := by
  simp only [get?_describe, Option.or_eq_some_iff, Option.or_eq_none_iff,
    Source.value?_eq_some_iff, Source.value?_eq_none_iff]
  constructor
  · intro h
    obtain (hs | ⟨hconfig, hs⟩) | ⟨⟨hconfig, hfacts⟩, hs | ⟨huser, hs⟩⟩ := h
    · refine ⟨.config, hs, ?_⟩
      intro stronger hlt
      exact absurd hlt (Nat.not_lt_zero _)
    · refine ⟨.facts, hs, ?_⟩
      intro stronger hlt
      cases stronger with
      | config => exact hconfig
      | _ => exact absurd hlt (by decide)
    · refine ⟨.user, hs, ?_⟩
      intro stronger hlt
      cases stronger with
      | config => exact hconfig
      | facts => exact hfacts
      | _ => exact absurd hlt (by decide)
    · refine ⟨.library, hs, ?_⟩
      intro stronger hlt
      cases stronger with
      | config => exact hconfig
      | facts => exact hfacts
      | user => exact huser
      | library => exact absurd hlt (by decide)
  · intro h
    obtain ⟨s, hs, hfirst⟩ := h
    cases s with
    | config => exact .inl (.inl hs)
    | facts => exact .inl (.inr ⟨hfirst .config (by decide), hs⟩)
    | user =>
      exact .inr ⟨⟨hfirst .config (by decide), hfirst .facts (by decide)⟩, .inl hs⟩
    | library =>
      exact .inr ⟨⟨hfirst .config (by decide), hfirst .facts (by decide)⟩,
        .inr ⟨hfirst .user (by decide), hs⟩⟩

theorem get?_eq_none_iff_undefined :
    (describe c m vars).get? key = none ↔ ∀ (s : Source) v, ¬ s.Defines c m vars key v := by
  simp only [get?_describe, Option.or_eq_none_iff, Source.value?_eq_none_iff]
  constructor
  · intro h s
    obtain ⟨⟨hconfig, hfacts⟩, huser, hlibrary⟩ := h
    cases s with
    | config => exact hconfig
    | facts => exact hfacts
    | user => exact huser
    | library => exact hlibrary
  · intro h
    exact ⟨⟨h .config, h .facts⟩, h .user, h .library⟩

theorem prevails_of_config (h : Source.config.Defines c m vars key value) :
    Prevails c m vars key value :=
  ⟨.config, h, fun _ hlt ↦ absurd hlt (Nat.not_lt_zero _)⟩

end Values

/-- The attributes of a service are what the strongest source that defines a key says about it, each
key once; there are as many as there are keys that any source defines. The names that are handed out
are those that are exported. -/
theorem describe_settled (c : ExporterConfig) (m : Machine) (vars : String → Option String) :
    (∀ key value, (key, value) ∈ (describe c m vars).attributes ↔ Prevails c m vars key value) ∧
    (∀ key value, (describe c m vars).get? key = some value ↔ Prevails c m vars key value) ∧
    (∀ key, (describe c m vars).get? key = none ↔
      ∀ (s : Source) value, ¬ s.Defines c m vars key value) ∧
    ((describe c m vars).attributes.map (·.1)).Nodup ∧
    (describe c m vars).size = Set.ncard {key | ∃ (s : Source) (value : String),
      s.Defines c m vars key value} ∧
    (describe c m vars).serviceName = c.serviceName ∧
    (describe c m vars).environment = c.environment ∧
    (describe c m vars).get? "service.name" = some (describe c m vars).serviceName ∧
    (describe c m vars).get? "deployment.environment" =
      some (describe c m vars).environment := by
  have hnodup := nodup_attributes c m vars
  refine ⟨?_, fun key value ↦ get?_eq_some_iff_prevails, fun key ↦ get?_eq_none_iff_undefined,
    hnodup, ?_, rfl, rfl, ?_, ?_⟩
  · intro key value
    rw [← get?_eq_some_iff_prevails, get?, Keyed.get?_eq_some_iff hnodup]
  · have hkeys : {key | ∃ (s : Source) (value : String), s.Defines c m vars key value} =
        ((describe c m vars).attributes.map (·.1)).toFinset := by
      ext key
      have hundefined : key ∉ (describe c m vars).attributes.map (·.1) ↔ _ :=
        Keyed.get?_eq_none_iff.symm.trans get?_eq_none_iff_undefined
      rw [List.coe_toFinset, Set.mem_ofPred_eq, Set.mem_ofPred_eq, ← not_iff_not, hundefined]
      simp only [not_exists]
    rw [hkeys, Set.ncard_coe_finset, List.toFinset_card_of_nodup hnodup, List.length_map]
    rfl
  · exact get?_eq_some_iff_prevails.mpr (prevails_of_config (.inl ⟨rfl, rfl⟩))
  · exact get?_eq_some_iff_prevails.mpr (prevails_of_config (.inr ⟨rfl, rfl⟩))

example :
    let m : Machine := { arch := "aarch64", system := "linux", pid := 7, libraryVersion := "1" }
    let given := "team=a, team = b ,team=c=d,host.arch=x,telemetry.sdk.language=lean"
    let r := describe (.new "") m fun name ↦
      if name = "OTEL_RESOURCE_ATTRIBUTES" then some given else none
    ["team", "host.arch", "telemetry.sdk.language", "service.name", "host.name"].map r.get? =
      [some "b", some "arm64", some "lean", some "", none] := by
  decide +kernel

end Telemetry.Resource
