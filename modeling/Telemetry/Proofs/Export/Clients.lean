import Mathlib
import Telemetry.Proofs.Credentials.Defects
import Telemetry.Proofs.Export.Faults

namespace Telemetry

open Credentials

variable {c : ExporterConfig} {k : Signal} {m : Material}

namespace Credentials

theorem ofPem_of_ofConfig (h : Material.ofConfig c = .ok (some m)) {pem : List UInt8}
    (hpem : m.identity = some pem) : ∃ i, Identity.ofPem pem = .ok i ∧ i.check = .ok () := by
  obtain ⟨hfree, rfl⟩ := ofConfig_eq_ok_some h
  obtain ⟨cert, key, hcert, hkey, rfl⟩ : ∃ cert key, Holds c .certificate cert ∧ Holds c .key key ∧
      joined cert key = pem := by
    unfold identity? at hpem
    dsimp only at hpem
    split at hpem
    · next cert key hcert hkey =>
      cases hpem
      exact ⟨cert, key, held?_eq_some_iff.mp hcert, held?_eq_some_iff.mp hkey, rfl⟩
    · cases hpem
  obtain ⟨whole, leaf, hleaf⟩ := exists_leaf fun hbroken ↦ hfree _ (.unreadable hcert hbroken)
  obtain ⟨own, hown⟩ := exists_ownKey fun hbroken ↦ hfree _ (.unreadable hkey hbroken)
  cases hchecked : (Identity.ofPem (joined cert key)).bind (·.check) with
  | error cause =>
    have hunpaired := (pair_eq_error_iff whole hleaf hown).mp hchecked
    exact absurd (.mismatched hcert hkey hunpaired) (hfree _)
  | ok =>
    cases hread : Identity.ofPem (joined cert key) with
    | error cause =>
      rw [hread] at hchecked
      cases hchecked
    | ok i =>
      rw [hread] at hchecked
      exact ⟨i, rfl, hchecked⟩

/-- One of the sections to trust holds bytes that are no certificate. -/
def Spurious (c : ExporterConfig) : Prop :=
  ∃ pem, Holds c .ca pem ∧ ∃ s ∈ (Pem.read pem).1, s.label = .certificate ∧
    Certificate.anchorOfDer? s.content = none

theorem spurious_iff : Spurious c ↔ ∃ der ∈ roots c, Certificate.anchorOfDer? der = none := by
  unfold Spurious roots
  simp only [← held?_eq_some_iff]
  cases held? c .ca with
  | none => simp
  | some pem => simp [contents, and_assoc]

end Credentials

namespace Export

theorem withMaterial_of_ofConfig (h : Material.ofConfig c = .ok (some m)) (client : Client) :
    ∃ identity, Client.withMaterial m client =
        .ok ⟨identity, client.trustsBuiltIn && m.roots.isEmpty, client.roots ++ m.roots⟩ ∧
      (identity = client.identity ∨ ∃ i, identity = some i ∧ i.check = .ok ()) := by
  have hmade (identity : Option Identity) :
      (if m.roots.isEmpty then (pure { client with identity } : Except Fault Client)
        else pure { identity, trustsBuiltIn := false, roots := client.roots ++ m.roots }) =
      .ok ⟨identity, client.trustsBuiltIn && m.roots.isEmpty, client.roots ++ m.roots⟩ := by
    cases m.roots <;> simp [pure, Except.pure]
  unfold Client.withMaterial
  cases hpem : m.identity with
  | none => exact ⟨client.identity, hmade _, .inl rfl⟩
  | some pem =>
    obtain ⟨i, hread, hcheck⟩ := ofPem_of_ofConfig h hpem
    refine ⟨some i, ?_, .inr ⟨i, rfl, hcheck⟩⟩
    dsimp only
    rw [hread]
    exact hmade _

theorem tlsFault?_eq_some_iff {f : Fault} :
    tlsFault? c = some f ↔ Material.ofConfig c = .error f := by
  unfold tlsFault?
  rcases hread : Material.ofConfig c with g | - | m
  · simp
  · simp
  · obtain ⟨identity, hmade, -⟩ := withMaterial_of_ofConfig hread {}
    simp [hmade]

theorem isMakeable_iff {identity : Option Identity} (trusts : Bool) (ders : List (List UInt8))
    (h : identity = none ∨ ∃ i, identity = some i ∧ i.check = .ok ()) :
    Client.isMakeable ⟨identity, trusts, ders⟩ = true ↔
      ∀ der ∈ ders, Certificate.anchorOfDer? der ≠ none := by
  have hchecked : identity.all (·.check.isOk) = true := by
    rcases h with rfl | ⟨i, rfl, hi⟩
    · rfl
    · rw [Option.all_some, hi]
      rfl
  simp [Client.isMakeable, hchecked, Option.isSome_iff_ne_none]

theorem client?_eq_none_iff (h : tlsFault? c = none) : client? c = none ↔ Spurious c := by
  rw [spurious_iff]
  unfold client?
  rcases hread : Material.ofConfig c with f | - | m
  · cases h.symm.trans (tlsFault?_eq_some_iff.mpr hread)
  · have hca : c.ca = none := present_eq_none_iff.mpr
      (hasTlsMaterial_eq_false_iff.mp (ofConfig_eq_ok_none_iff.mp hread)).2.2
    simp [roots, held?, configured?, hca]
  · obtain ⟨identity, hmade, hidentity⟩ := withMaterial_of_ofConfig hread {}
    have hmakeable := isMakeable_iff m.roots.isEmpty m.roots hidentity
    obtain ⟨-, rfl⟩ := ofConfig_eq_ok_some hread
    simp only [hmade, Bool.true_and, List.nil_append, ite_eq_right_iff, reduceCtorEq, imp_false,
      hmakeable]
    push Not
    rfl

/-- Credentials that have been read are good for any client, so no client fails over credentials
that could be read. A client
* fails over its credentials just when they cannot be read, and over the same fault;
* otherwise fails just when one of the sections to trust holds bytes that are no certificate, and
  that is an error of the exporter of the signal. -/
theorem httpClient_settled (c : ExporterConfig) (k : Signal) :
    (∀ m, Material.ofConfig c = .ok (some m) →
      ∀ client, ∃ made, Client.withMaterial m client = .ok made) ∧
    (∀ events, ((httpClient c k).run events).1 = outcome (httpClient c k)) ∧
    (∀ f, outcome (httpClient c k) = .error (.credentials f) ↔ Material.ofConfig c = .error f) ∧
    (∀ e, outcome (httpClient c k) = .error e →
      (∃ f, e = .credentials f) ∨ e = .exporter k .client) ∧
    (outcome (httpClient c k) = .error (.exporter k .client) ↔
      (∀ f, Material.ofConfig c ≠ .error f) ∧ Spurious c) := by
  have hreadable : tlsFault? c = none ↔ ∀ f, Material.ofConfig c ≠ .error f := by
    simp only [Option.eq_none_iff_forall_ne_some, ne_eq, tlsFault?_eq_some_iff]
  refine ⟨fun m hm client ↦ ?_, fun events ↦ ?_, fun f ↦ ?_, fun e he ↦ ?_, ?_⟩
  · obtain ⟨identity, hmade, -⟩ := withMaterial_of_ofConfig hm client
    exact ⟨_, hmade⟩
  · obtain ⟨es, hrun⟩ := (steady_httpClient c k).run_eq events
    rw [hrun]
  · rw [outcome_httpClient_eq_error, ← tlsFault?_eq_some_iff]
    simp
  · rcases outcome_httpClient_eq_error.mp he with ⟨f, -, rfl⟩ | ⟨-, -, rfl⟩
    · exact .inl ⟨f, rfl⟩
    · exact .inr rfl
  · rw [outcome_httpClient_eq_error, ← hreadable]
    constructor
    · rintro (⟨f, -, hf⟩ | ⟨htls, hclient, -⟩)
      · cases hf
      · exact ⟨htls, (client?_eq_none_iff htls).mp hclient⟩
    · rintro ⟨htls, hspurious⟩
      exact .inr ⟨htls, (client?_eq_none_iff htls).mpr hspurious, rfl⟩

/-- Three bytes that are no certificate, in a section that says it holds one. -/
example : outcome (httpClient
    { tlsCa := some ("LS0tLS1CRUdJTiBDRVJUSUZJQ0FURS0tLS0tCkFBQUEK" ++
      "LS0tLS1FTkQgQ0VSVElGSUNBVEUtLS0tLQo=") } .logs) =
    .error (.exporter .logs .client) := by decide +kernel

end Export

end Telemetry
