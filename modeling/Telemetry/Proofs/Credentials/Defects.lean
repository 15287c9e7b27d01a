import Mathlib
import Telemetry.Proofs.Credentials.Seams
import Telemetry.Proofs.Text.Trim

namespace Telemetry.Credentials

def Blank (value : Option String) : Prop := ∀ v ∈ value, Text.isBlankText v = true

def configured? (c : ExporterConfig) : Artifact → Option String
  | .certificate => c.cert
  | .key => c.key
  | .ca => c.ca
  | .keyPair => none

def Holds (c : ExporterConfig) (a : Artifact) (bytes : List UInt8) : Prop :=
  ∃ v, configured? c a = some v ∧ Base64.decode (Utf8.encode (Text.withoutBlanks v)) = .ok bytes

/-- What keeps bytes from serving as an artifact. Certificates have to be read to the end of the
text; in a text with a private key nothing counts after that key. -/
inductive Illegible (pem : List UInt8) : Artifact → Unreadable → Prop
  | torn {a : Artifact} {f : Pem.Fault} (wanted : a = .certificate ∨ a = .ca)
      (fault : (Pem.read pem).2 = some f) : Illegible pem a (.pem f)
  | uncertified {a : Artifact} (wanted : a = .certificate ∨ a = .ca)
      (whole : (Pem.read pem).2 = none)
      (lacking : ∀ s ∈ (Pem.read pem).1, s.label ≠ .certificate) : Illegible pem a .noCertificate
  | tornKey {f : Pem.Fault} (fault : (Pem.read pem).2 = some f)
      (lacking : ∀ s ∈ (Pem.read pem).1, s.label.isPrivateKey = false) :
      Illegible pem .key (.pem f)
  | keyless (whole : (Pem.read pem).2 = none)
      (lacking : ∀ s ∈ (Pem.read pem).1, s.label.isPrivateKey = false) :
      Illegible pem .key .noPrivateKey

def contents (pem : List UInt8) : List (List UInt8) :=
  ((Pem.read pem).1.filter (·.label = .certificate)).map (·.content)

def ownKey? (key : List UInt8) : Option Pem.Section :=
  ((Pem.read key).1.filter (·.label.isPrivateKey)).getLast?

/-- The sections of both texts together are a chain and its keys, and nothing else. -/
def Combines (cert key : List UInt8) : Prop :=
  (Pem.read key).2 = none ∧ ∀ s ∈ (Pem.read cert).1 ++ (Pem.read key).1,
    s.label = .certificate ∨ s.label.isPrivateKey = true

instance (cert key : List UInt8) : Decidable (Combines cert key) :=
  inferInstanceAs (Decidable (_ ∧ _))

/-- Why a certificate and a key do not go together. The key has to be that of the first certificate
of the certificate text. -/
inductive Unpaired (cert key : List UInt8) : Mismatch → Prop
  | mixed (apart : ¬ Combines cert key) : Unpaired cert key .pem
  | unusable {own : Pem.Section} (combines : Combines cert key) (hown : ownKey? key = some own)
      (broken : PrivateKey.public? own = none) : Unpaired cert key .key
  | uncertain {own : Pem.Section} {identity leaf : List UInt8} (combines : Combines cert key)
      (hown : ownKey? key = some own) (usable : PrivateKey.public? own = some identity)
      (hleaf : (contents cert).head? = some leaf)
      (broken : Certificate.ofDer? leaf = none) : Unpaired cert key .certificate
  | foreign {own : Pem.Section} {identity leaf : List UInt8} {certificate : Certificate}
      (combines : Combines cert key) (hown : ownKey? key = some own)
      (usable : PrivateKey.public? own = some identity) (hleaf : (contents cert).head? = some leaf)
      (legible : Certificate.ofDer? leaf = some certificate)
      (other : certificate.publicKey ≠ identity) : Unpaired cert key .foreignKey

inductive Defect (c : ExporterConfig) : Fault → Prop
  | undecodable {a : Artifact} {v : String} {cause : Base64.Fault}
      (configured : configured? c a = some v)
      (broken : Base64.decode (Utf8.encode (Text.withoutBlanks v)) = .error cause) :
      Defect c (.undecodable a cause)
  | keyless (cert : c.cert.isSome = true) (key : c.key = none) :
      Defect c (.missing .key .certificate)
  | certless (cert : c.cert = none) (key : c.key.isSome = true) :
      Defect c (.missing .certificate .key)
  | unreadable {a : Artifact} {pem : List UInt8} {cause : Unreadable} (held : Holds c a pem)
      (broken : Illegible pem a cause) : Defect c (.unreadable a cause)
  | mismatched {cert key : List UInt8} {cause : Mismatch} (certHeld : Holds c .certificate cert)
      (keyHeld : Holds c .key key)
      (broken : Unpaired cert key cause) : Defect c (.mismatched cause)

/-- The place of a fault among all that there may be. -/
def Fault.rank : Fault → Nat
  | undecodable .certificate _ => 0
  | undecodable .key _ => 1
  | undecodable _ _ => 2
  | missing .key _ => 3
  | missing _ _ => 4
  | unreadable .certificate _ => 5
  | unreadable .key _ => 6
  | mismatched _ => 7
  | unreadable _ _ => 8

def FirstDefect (c : ExporterConfig) (f : Fault) : Prop :=
  Defect c f ∧ ∀ g, Defect c g → f.rank ≤ g.rank

variable {c : ExporterConfig} {α β : Type} {a : Artifact} {pem : List UInt8} {f : Fault} {n m : Nat}

section Artifacts

theorem present_eq_none_iff {value : Option String} :
    ExporterConfig.present value = none ↔ Blank value := by
  unfold ExporterConfig.present Blank
  cases value with
  | none => simp
  | some v => simp [Option.filter, Text.trim_eq_empty_iff]

theorem hasTlsMaterial_eq_false_iff :
    c.hasTlsMaterial = false ↔ Blank c.tlsCert ∧ Blank c.tlsKey ∧ Blank c.tlsCa := by
  simp only [← present_eq_none_iff]
  simp [ExporterConfig.hasTlsMaterial, ExporterConfig.cert, ExporterConfig.key, ExporterConfig.ca,
    and_assoc]

theorem Holds.unique {other : List UInt8} (h : Holds c a pem) (h' : Holds c a other) :
    pem = other := by
  obtain ⟨v, hv, hb⟩ := h
  obtain ⟨v', hv', hb'⟩ := h'
  cases hv.symm.trans hv'
  cases hb.symm.trans hb'
  rfl

def held? (c : ExporterConfig) (a : Artifact) : Option (List UInt8) :=
  (configured? c a).bind fun v ↦ (Base64.decode (Utf8.encode (Text.withoutBlanks v))).toOption

theorem held?_eq_some_iff : held? c a = some pem ↔ Holds c a pem := by
  unfold held? Holds
  simp only [Option.bind_eq_some_iff]
  refine exists_congr fun v ↦ and_congr_right fun _ ↦ ?_
  cases Base64.decode (Utf8.encode (Text.withoutBlanks v)) <;> simp [Except.toOption]

theorem isSome_held? (h : ∀ cause, ¬ Defect c (.undecodable a cause)) :
    (held? c a).isSome = (configured? c a).isSome := by
  unfold held?
  cases hv : configured? c a with
  | none => rfl
  | some v =>
    cases hb : Base64.decode (Utf8.encode (Text.withoutBlanks v)) with
    | error cause => exact absurd (.undecodable hv hb) (h cause)
    | ok bytes => simp [hb, Except.toOption]

end Artifacts

section Checks

theorem decodeOptional_some (a : Artifact) (v : String) : decodeOptional a (some v) =
    match Base64.decode (Utf8.encode (Text.withoutBlanks v)) with
    | .error cause => .error (.undecodable a cause)
    | .ok bytes => .ok (some bytes) := by
  rw [decodeOptional, decode]
  cases Base64.decode (Utf8.encode (Text.withoutBlanks v)) <;> rfl

theorem decodeOptional_eq_error_iff : decodeOptional a (configured? c a) = .error f ↔
    ∃ cause, f = .undecodable a cause ∧ Defect c f := by
  constructor
  · intro h
    cases hv : configured? c a with
    | none =>
      rw [hv] at h
      cases h
    | some v =>
      rw [hv, decodeOptional_some] at h
      split at h <;> cases h
      exact ⟨_, rfl, .undecodable hv ‹_›⟩
  · rintro ⟨cause, rfl, hd⟩
    cases hd with
    | undecodable hv hb => rw [hv, decodeOptional_some, hb]

theorem decodeOptional_eq_ok {bytes : Option (List UInt8)}
    (h : decodeOptional a (configured? c a) = .ok bytes) : bytes = held? c a := by
  unfold held?
  cases hv : configured? c a with
  | none =>
    rw [hv] at h
    cases h
    rfl
  | some v =>
    rw [hv, decodeOptional_some] at h
    split at h <;> cases h
    next hb => simp [hb, Except.toOption]

theorem contents_eq_nil_iff :
    contents pem = [] ↔ ∀ s ∈ (Pem.read pem).1, s.label ≠ .certificate := by
  simp [contents]

theorem certificates_eq (a : Artifact) (pem : List UInt8) : certificates a pem =
    match (Pem.read pem).2, contents pem with
    | some fault, _ => .error (.unreadable a (.pem fault))
    | none, [] => .error (.unreadable a .noCertificate)
    | none, certs => .ok certs := by
  unfold certificates Pem.certificates contents
  rcases Pem.read pem with ⟨sections, - | fault⟩
  · dsimp only
    cases List.map (·.content) (sections.filter (·.label = .certificate)) <;> rfl
  · rfl

theorem certificates_eq_ok {certs : List (List UInt8)} (h : certificates a pem = .ok certs) :
    (Pem.read pem).2 = none ∧ certs = contents pem ∧ certs ≠ [] := by
  rw [certificates_eq] at h
  split at h <;> cases h
  exact ⟨‹_›, rfl, ‹_›⟩

theorem certificates_eq_error_iff (wanted : a = .certificate ∨ a = .ca) :
    certificates a pem = .error f ↔ ∃ cause, f = .unreadable a cause ∧ Illegible pem a cause := by
  rw [certificates_eq]
  constructor
  · intro h
    split at h <;> cases h
    · exact ⟨_, rfl, .torn wanted ‹_›⟩
    · exact ⟨_, rfl, .uncertified wanted ‹_› (contents_eq_nil_iff.mp ‹_›)⟩
  · rintro ⟨cause, rfl, h⟩
    cases h with
    | torn _ fault => rw [fault]
    | uncertified _ whole lacking => rw [whole, contents_eq_nil_iff.mpr lacking]
    | tornKey | keyless => simp at wanted

def readKey (pem : List UInt8) : Except Fault Unit :=
  match Pem.privateKey? pem with
  | .error fault => .error (.unreadable .key (.pem fault))
  | .ok none => .error (.unreadable .key .noPrivateKey)
  | .ok (some _) => .ok ()

theorem readKey_eq_error_iff : readKey pem = .error f ↔
    ∃ cause, f = .unreadable .key cause ∧ Illegible pem .key cause := by
  have hnone : (Pem.read pem).1.find? (·.label.isPrivateKey) = none ↔
      ∀ s ∈ (Pem.read pem).1, s.label.isPrivateKey = false := by simp
  unfold readKey Pem.privateKey?
  constructor
  · intro h
    cases hfind : (Pem.read pem).1.find? (·.label.isPrivateKey) with
    | some s => simp [hfind] at h
    | none =>
      cases hfault : (Pem.read pem).2 with
      | none =>
        simp only [hfind, hfault] at h
        cases h
        exact ⟨_, rfl, .keyless hfault (hnone.mp hfind)⟩
      | some fault =>
        simp only [hfind, hfault] at h
        cases h
        exact ⟨_, rfl, .tornKey hfault (hnone.mp hfind)⟩
  · rintro ⟨cause, rfl, h⟩
    cases h with
    | torn wanted | uncertified wanted => simp at wanted
    | tornKey fault lacking => simp [hnone.mpr lacking, fault]
    | keyless whole lacking => simp [hnone.mpr lacking, whole]

theorem identityPem_eq (cert key : List UInt8) : identityPem cert key =
    certificates .certificate cert >>= fun _ ↦ readKey key >>= fun _ ↦
      ((Identity.ofPem (joined cert key)).bind (·.check)).mapError .mismatched >>= fun _ ↦
        .ok (joined cert key) := by
  unfold identityPem readKey
  cases certificates .certificate cert with
  | error => rfl
  | ok certs => rcases Pem.privateKey? key with fault | - | s <;> rfl

end Checks

section Pairs

variable {cert key leaf : List UInt8} {own : Pem.Section} {cause : Mismatch}

theorem exists_leaf (h : ∀ {cause}, ¬ Illegible cert .certificate cause) :
    (Pem.read cert).2 = none ∧ ∃ leaf, (contents cert).head? = some leaf := by
  have whole : (Pem.read cert).2 = none := by
    by_contra hfault
    obtain ⟨f, hf⟩ := Option.ne_none_iff_exists'.mp hfault
    exact h (.torn (.inl rfl) hf)
  refine ⟨whole, ?_⟩
  rw [← Option.ne_none_iff_exists', ne_eq, List.head?_eq_none_iff, contents_eq_nil_iff]
  intro lacking
  exact h (.uncertified (.inl rfl) whole lacking)

theorem exists_ownKey (h : ∀ {cause}, ¬ Illegible key .key cause) :
    ∃ own, ownKey? key = some own := by
  rw [← Option.ne_none_iff_exists', ne_eq, ownKey?, List.getLast?_eq_none_iff,
    List.filter_eq_nil_iff]
  intro lacking
  have hnone : ∀ s ∈ (Pem.read key).1, s.label.isPrivateKey = false := by
    intro s hs
    simpa using lacking s hs
  cases hfault : (Pem.read key).2 with
  | none => exact h (.keyless hfault hnone)
  | some f => exact h (.tornKey hfault hnone)

theorem length_filters_eq_iff (sections : List Pem.Section) :
    (sections.filter (·.label = .certificate)).length +
        (sections.filter (·.label.isPrivateKey)).length = sections.length ↔
      ∀ s ∈ sections, s.label = .certificate ∨ s.label.isPrivateKey = true := by
  have hdisjoint : sections.filter (·.label.isPrivateKey) =
      (sections.filter fun s ↦ !decide (s.label = .certificate)).filter (·.label.isPrivateKey) := by
    rw [List.filter_filter]
    apply List.filter_congr
    intro s _
    by_cases hs : s.label = .certificate
    · rw [hs]
      rfl
    · simp [hs]
  have hsplit := List.length_eq_length_filter_add (l := sections) (·.label = .certificate)
  rw [hdisjoint, hsplit, Nat.add_left_cancel_iff, List.length_filter_eq_length_iff]
  simp [or_iff_not_imp_left]

variable (whole : (Pem.read cert).2 = none) (hleaf : (contents cert).head? = some leaf)
  (hown : ownKey? key = some own)

include whole hleaf hown

theorem ofPem_joined : Identity.ofPem (joined cert key) =
    if Combines cert key then .ok ⟨contents cert ++ contents key, own⟩ else .error .pem := by
  have hlast : (((Pem.read cert).1 ++ (Pem.read key).1).filter
      (·.label.isPrivateKey)).getLast? = some own := by
    rw [ownKey?] at hown
    rw [List.filter_append, List.getLast?_append, hown, Option.some_or]
  have hchain : (((Pem.read cert).1 ++ (Pem.read key).1).filter
      (·.label = .certificate)).map (·.content) = contents cert ++ contents key := by
    rw [List.filter_append, List.map_append, contents, contents]
  have hne : ((Pem.read cert).1 ++ (Pem.read key).1).filter (·.label = .certificate) ≠ [] := by
    intro hnil
    rw [hnil, List.map_nil, eq_comm, List.append_eq_nil_iff] at hchain
    rw [hchain.1] at hleaf
    cases hleaf
  have hcount := length_filters_eq_iff ((Pem.read cert).1 ++ (Pem.read key).1)
  unfold Identity.ofPem
  rw [read_joined whole]
  by_cases combines : Combines cert key
  · rw [if_pos combines, combines.1]
    dsimp only
    rw [hlast]
    dsimp only
    rw [if_neg, hchain]
    simp only [Bool.or_eq_true, List.isEmpty_iff, decide_eq_true_eq, ne_eq, not_or, not_not]
    exact ⟨hne, hcount.mpr combines.2⟩
  · rw [if_neg combines]
    cases hfault : (Pem.read key).2 with
    | some f => rfl
    | none =>
      have hless := hcount.not.mpr fun hall ↦ combines ⟨hfault, hall⟩
      dsimp only
      rw [hlast]
      dsimp only
      rw [if_pos]
      simp only [Bool.or_eq_true, decide_eq_true_eq]
      exact .inr hless

theorem pair_eq_error_iff :
    (Identity.ofPem (joined cert key)).bind (·.check) = .error cause ↔ Unpaired cert key cause := by
  have hhead : (contents cert ++ contents key).head? = some leaf := by
    rw [List.head?_append, hleaf, Option.some_or]
  rw [ofPem_joined whole hleaf hown]
  split
  · next combines =>
    show Identity.check _ = _ ↔ _
    unfold Identity.check
    rw [hhead]
    constructor
    · intro h
      split at h
      · next hbroken =>
        cases h
        exact .unusable combines hown hbroken
      · next hbroken husable =>
        cases h
        obtain ⟨identity, hidentity⟩ := Option.ne_none_iff_exists'.mp husable
        exact .uncertain combines hown hidentity hleaf hbroken
      · next identity certificate hidentity hlegible =>
        split at h
        · cases h
        · next hother =>
          cases h
          exact .foreign combines hown hidentity hleaf hlegible hother
    · intro h
      cases h with
      | mixed apart => exact absurd combines apart
      | unusable _ hown' hbroken =>
        cases hown.symm.trans hown'
        rw [hbroken]
      | uncertain _ hown' husable hleaf' hbroken =>
        cases hown.symm.trans hown'
        cases hleaf.symm.trans hleaf'
        simp [husable, hbroken]
      | foreign _ hown' husable hleaf' hlegible hother =>
        cases hown.symm.trans hown'
        cases hleaf.symm.trans hleaf'
        simp [husable, hlegible, hother]
  · next apart =>
    constructor
    · intro h
      cases h
      exact .mixed apart
    · intro h
      cases h with
      | mixed => rfl
      | unusable combines | uncertain combines | foreign combines => exact absurd combines apart

end Pairs

section Ranks

/-- The checks of the ranks below `n` come to the first defect, or to `a` if none of them finds
one. -/
def Checked (c : ExporterConfig) (n : Nat) (r : Except Fault α) (a : α) : Prop :=
  (r = .ok a ∧ ∀ g, Defect c g → n ≤ g.rank) ∨ ∃ f, r = .error f ∧ ∀ g, FirstDefect c g ↔ g = f

theorem Checked.bind {r : Except Fault α} {a : α} {next : α → Except Fault β} {b : β}
    (h : Checked c n r a) (hnext : (∀ g, Defect c g → n ≤ g.rank) → Checked c m (next a) b) :
    Checked c m (r >>= next) b := by
  rcases h with ⟨rfl, hclear⟩ | ⟨f, rfl, hf⟩
  · exact hnext hclear
  · exact .inr ⟨f, rfl, hf⟩

theorem Checked.of_only {a : α} (hf : Defect c f) (hclear : ∀ g, Defect c g → f.rank ≤ g.rank)
    (honly : ∀ g, Defect c g → g.rank = f.rank → g = f) : Checked c n (.error f) a := by
  refine .inr ⟨f, rfl, fun g ↦ ⟨fun hg ↦ ?_, ?_⟩⟩
  · exact honly g hg.1 (le_antisymm (hg.2 f hf) (hclear g hg.1))
  · rintro rfl
    exact ⟨hf, hclear⟩

theorem Checked.of_iff {r : Except Fault α} {a : α} (hclear : ∀ g, Defect c g → n ≤ g.rank)
    (herror : ∀ f, r = .error f ↔ Defect c f ∧ f.rank = n) (hok : ∀ b, r = .ok b → b = a) :
    Checked c (n + 1) r a := by
  cases hr : r with
  | ok b =>
    refine .inl ⟨by rw [hok b hr], fun g hg ↦ ?_⟩
    have hne : g.rank ≠ n := by
      intro hrank
      cases hr.symm.trans ((herror g).mpr ⟨hg, hrank⟩)
    exact Nat.lt_of_le_of_ne (hclear g hg) hne.symm
  | error f =>
    obtain ⟨hf, rfl⟩ := (herror f).mp hr
    refine .of_only hf hclear fun g hg hsame ↦ ?_
    cases hr.symm.trans ((herror g).mpr ⟨hg, hsame⟩)
    rfl

theorem Defect.by_rank (h : Defect c f) : match f.rank with
    | 0 => ∃ cause, f = .undecodable .certificate cause
    | 1 => ∃ cause, f = .undecodable .key cause
    | 2 => ∃ cause, f = .undecodable .ca cause
    | 3 => f = .missing .key .certificate
    | 4 => f = .missing .certificate .key
    | 5 => ∃ cause, f = .unreadable .certificate cause
    | 6 => ∃ cause, f = .unreadable .key cause
    | 7 => ∃ cause, f = .mismatched cause
    | 8 => ∃ cause, f = .unreadable .ca cause
    | _ => False := by
  cases h with
  | @undecodable a v cause hv =>
    cases a with
    | certificate | key | ca => exact ⟨cause, rfl⟩
    | keyPair => cases hv
  | keyless | certless => exact rfl
  | @unreadable a pem cause hheld =>
    cases a with
    | certificate | key | ca => exact ⟨cause, rfl⟩
    | keyPair =>
      obtain ⟨v, hv, -⟩ := hheld
      cases hv
  | @mismatched cert key cause => exact ⟨cause, rfl⟩

theorem Defect.undecodable_of_rank (h : Defect c f) (ha : a ≠ .keyPair)
    (hrank : f.rank = Fault.rank (.undecodable a .padding)) :
    ∃ cause, f = .undecodable a cause := by
  have hkind := h.by_rank
  rw [hrank] at hkind
  cases a with
  | certificate | key | ca => exact hkind
  | keyPair => contradiction

theorem Defect.unreadable_of_rank (h : Defect c f) (ha : a ≠ .keyPair)
    (hrank : f.rank = Fault.rank (.unreadable a .noCertificate)) :
    ∃ cause, f = .unreadable a cause := by
  have hkind := h.by_rank
  rw [hrank] at hkind
  cases a with
  | certificate | key | ca => exact hkind
  | keyPair => contradiction

theorem checked_decodeOptional (ha : a ≠ .keyPair)
    (hclear : ∀ g, Defect c g → Fault.rank (.undecodable a .padding) ≤ g.rank) :
    Checked c (Fault.rank (.undecodable a .padding) + 1) (decodeOptional a (configured? c a))
      (held? c a) := by
  refine .of_iff hclear (fun f ↦ ?_) fun bytes ↦ decodeOptional_eq_ok
  rw [decodeOptional_eq_error_iff]
  constructor
  · rintro ⟨cause, rfl, hd⟩
    exact ⟨hd, by cases a <;> rfl⟩
  · rintro ⟨hd, hrank⟩
    obtain ⟨cause, rfl⟩ := hd.undecodable_of_rank ha hrank
    exact ⟨cause, rfl, hd⟩

theorem checked_legible {r : Except Fault α} {b : α} (ha : a ≠ .keyPair) (hheld : Holds c a pem)
    (hclear : ∀ g, Defect c g → Fault.rank (.unreadable a .noCertificate) ≤ g.rank)
    (herror : ∀ f, r = .error f ↔ ∃ cause, f = .unreadable a cause ∧ Illegible pem a cause)
    (hok : ∀ b', r = .ok b' → b' = b) :
    Checked c (Fault.rank (.unreadable a .noCertificate) + 1) r b := by
  refine .of_iff hclear (fun f ↦ ?_) hok
  rw [herror]
  constructor
  · rintro ⟨cause, rfl, hbroken⟩
    exact ⟨.unreadable hheld hbroken, by cases a <;> rfl⟩
  · rintro ⟨hd, hrank⟩
    obtain ⟨cause, rfl⟩ := hd.unreadable_of_rank ha hrank
    cases hd with
    | unreadable hheld' hbroken => exact ⟨cause, rfl, hheld'.unique hheld ▸ hbroken⟩

theorem checked_pair {cert key : List UInt8} (hcert : Holds c .certificate cert)
    (hkey : Holds c .key key) (hclear : ∀ g, Defect c g → 7 ≤ g.rank) :
    Checked c 8 (((Identity.ofPem (joined cert key)).bind (·.check)).mapError .mismatched) () := by
  have hlegible {cause : Unreadable} : ¬ Illegible cert .certificate cause := by
    intro hbroken
    have hle := hclear _ (.unreadable hcert hbroken)
    simp [Fault.rank] at hle
  have hlegibleKey {cause : Unreadable} : ¬ Illegible key .key cause := by
    intro hbroken
    have hle := hclear _ (.unreadable hkey hbroken)
    simp [Fault.rank] at hle
  obtain ⟨whole, leaf, hleaf⟩ := exists_leaf hlegible
  obtain ⟨own, hown⟩ := exists_ownKey hlegibleKey
  refine .of_iff hclear (fun f ↦ ?_) fun _ _ ↦ rfl
  constructor
  · intro h
    cases hcheck : (Identity.ofPem (joined cert key)).bind (·.check) with
    | ok => simp [hcheck, Except.mapError] at h
    | error cause =>
      simp only [hcheck, Except.mapError] at h
      cases h
      exact ⟨.mismatched hcert hkey ((pair_eq_error_iff whole hleaf hown).mp hcheck), rfl⟩
  · rintro ⟨hd, hrank⟩
    have hkind := hd.by_rank
    rw [hrank] at hkind
    obtain ⟨cause, rfl⟩ := hkind
    cases hd with
    | mismatched hcert' hkey' hbroken =>
      rw [hcert'.unique hcert, hkey'.unique hkey] at hbroken
      rw [(pair_eq_error_iff whole hleaf hown).mpr hbroken]
      rfl

def identity? (c : ExporterConfig) : Option (List UInt8) :=
  match held? c .certificate, held? c .key with
  | some cert, some key => some (joined cert key)
  | _, _ => none

def roots (c : ExporterConfig) : List (List UInt8) := ((held? c .ca).map contents).getD []

theorem checked_identityPem {cert key : List UInt8} (hcert : Holds c .certificate cert)
    (hkey : Holds c .key key) (hclear : ∀ g, Defect c g → 5 ≤ g.rank) :
    Checked c 8 (identityPem cert key) (joined cert key) := by
  rw [identityPem_eq]
  refine Checked.bind (n := 6) (a := contents cert) (checked_legible (by decide) hcert hclear
    (fun f ↦ certificates_eq_error_iff (.inl rfl)) fun _ h ↦ (certificates_eq_ok h).2.1) ?_
  intro hclear
  refine Checked.bind (n := 7) (a := ()) (checked_legible (by decide) hkey hclear
    (fun f ↦ readKey_eq_error_iff) fun _ _ ↦ rfl) ?_
  intro hclear
  refine (checked_pair hcert hkey hclear).bind fun hclear ↦ ?_
  exact .inl ⟨rfl, hclear⟩

theorem isSome_held?_of_clear (hclear : ∀ g, Defect c g → 3 ≤ g.rank) (ha : a ≠ .keyPair) :
    (held? c a).isSome = (configured? c a).isSome := by
  refine isSome_held? fun cause hd ↦ ?_
  have hrank := hclear _ hd
  cases a <;> simp [Fault.rank] at hrank ha

theorem Defect.about_identity (h : Defect c f) (hlow : 3 ≤ f.rank) (hhigh : f.rank < 8) :
    f.rank = 3 ∧ c.cert.isSome = true ∧ c.key = none ∨
    f.rank = 4 ∧ c.cert = none ∧ c.key.isSome = true ∨
    5 ≤ f.rank ∧ ((∃ pem, Holds c .certificate pem) ∨ ∃ pem, Holds c .key pem) := by
  cases h with
  | @undecodable b => cases b <;> simp [Fault.rank] at hlow
  | keyless hcert hkey => exact .inl ⟨rfl, hcert, hkey⟩
  | certless hcert hkey => exact .inr (.inl ⟨rfl, hcert, hkey⟩)
  | @unreadable b pem _ hheld =>
    refine .inr (.inr ?_)
    cases b with
    | certificate => exact ⟨le_rfl, .inl ⟨pem, hheld⟩⟩
    | key => exact ⟨by simp [Fault.rank], .inr ⟨pem, hheld⟩⟩
    | ca | keyPair => simp [Fault.rank] at hhigh
  | @mismatched cert _ _ hcert => exact .inr (.inr ⟨by simp [Fault.rank], .inl ⟨cert, hcert⟩⟩)

theorem checked_keyless {b : α} (hcert : c.cert.isSome = true) (hkey : c.key = none)
    (hclear : ∀ g, Defect c g → 3 ≤ g.rank) :
    Checked c m (.error (.missing .key .certificate)) b := by
  refine .of_only (.keyless hcert hkey) hclear fun g hg hrank ↦ ?_
  have hkind := hg.by_rank
  rwa [hrank] at hkind

theorem checked_certless {b : α} (hcert : c.cert = none) (hkey : c.key.isSome = true)
    (hclear : ∀ g, Defect c g → 4 ≤ g.rank) :
    Checked c m (.error (.missing .certificate .key)) b := by
  refine .of_only (.certless hcert hkey) hclear fun g hg hrank ↦ ?_
  have hkind := hg.by_rank
  rwa [hrank] at hkind

theorem checked_identityOf (hclear : ∀ g, Defect c g → 3 ≤ g.rank) :
    Checked c 8 (Material.identityOf (held? c .certificate) (held? c .key)) (identity? c) := by
  have hcert : (held? c .certificate).isSome = c.cert.isSome :=
    isSome_held?_of_clear hclear (by decide)
  have hkey : (held? c .key).isSome = c.key.isSome := isSome_held?_of_clear hclear (by decide)
  unfold identity?
  rcases hc : held? c .certificate with - | cert <;> rcases hk : held? c .key with - | key <;>
    rw [hc] at hcert <;> rw [hk] at hkey
  · refine .inl ⟨rfl, fun g hg ↦ ?_⟩
    by_contra hlt
    rcases hg.about_identity (hclear g hg) (by omega) with ⟨-, hsome, -⟩ | ⟨-, -, hsome⟩ | ⟨-, hheld⟩
    · cases hcert.trans hsome
    · cases hkey.trans hsome
    · simp [← held?_eq_some_iff, hc, hk] at hheld
  · refine checked_certless (by simpa using hcert.symm) hkey.symm fun g hg ↦ ?_
    have hlow := hclear g hg
    by_contra hlt
    rcases hg.about_identity hlow (by omega) with ⟨-, hsome, -⟩ | ⟨hfour, -⟩ | ⟨hfive, -⟩
    · cases hcert.trans hsome
    · omega
    · omega
  · exact checked_keyless hcert.symm (by simpa using hkey.symm) hclear
  · have hfive : ∀ g, Defect c g → 5 ≤ g.rank := by
      intro g hg
      by_contra hlt
      rcases hg.about_identity (hclear g hg) (by omega) with ⟨-, -, hnone⟩ | ⟨-, hnone, -⟩ | ⟨hle, -⟩
      · rw [hnone] at hkey
        cases hkey
      · rw [hnone] at hcert
        cases hcert
      · exact hlt hle
    have hpem := checked_identityPem (held?_eq_some_iff.mp hc) (held?_eq_some_iff.mp hk) hfive
    exact hpem.bind fun hclear ↦ .inl ⟨rfl, hclear⟩

theorem checked_rootsOf (hclear : ∀ g, Defect c g → 8 ≤ g.rank) :
    Checked c 9 (Material.rootsOf (held? c .ca)) (roots c) := by
  unfold roots
  cases hca : held? c .ca with
  | none =>
    refine .of_iff hclear (fun f ↦ ⟨nofun, ?_⟩) fun certs h ↦ ?_
    · rintro ⟨hd, hrank⟩
      obtain ⟨cause, rfl⟩ := hd.unreadable_of_rank (a := .ca) (by decide) hrank
      cases hd with
      | unreadable hheld =>
        rw [held?_eq_some_iff.mpr hheld] at hca
        cases hca
    · cases h
      rfl
  | some pem =>
    exact checked_legible (by decide) (held?_eq_some_iff.mp hca) hclear
      (fun f ↦ certificates_eq_error_iff (.inr rfl)) fun _ h ↦ (certificates_eq_ok h).2.1

theorem checked_ofConfig (h : c.hasTlsMaterial = true) :
    Checked c 9 (Material.ofConfig c) (some ⟨identity? c, roots c⟩) := by
  unfold Material.ofConfig
  simp only [h]
  refine Checked.bind (n := 1) (checked_decodeOptional (a := .certificate) (by decide) ?_) ?_
  · exact fun g hg ↦ Nat.zero_le _
  intro hclear
  refine Checked.bind (n := 2) (checked_decodeOptional (a := .key) (by decide) hclear) ?_
  intro hclear
  refine Checked.bind (n := 3) (checked_decodeOptional (a := .ca) (by decide) hclear) ?_
  intro hclear
  refine (checked_identityOf hclear).bind fun hclear ↦ ?_
  refine (checked_rootsOf hclear).bind fun hclear ↦ ?_
  exact .inl ⟨rfl, hclear⟩

end Ranks

section Reading

theorem Defect.hasTlsMaterial (h : Defect c f) : c.hasTlsMaterial = true := by
  have of_configured {a : Artifact} {v : String} (hv : configured? c a = some v) :
      c.hasTlsMaterial = true := by
    cases a <;> simp_all [configured?, ExporterConfig.hasTlsMaterial]
  cases h with
  | undecodable hv => exact of_configured hv
  | keyless hcert => simp [ExporterConfig.hasTlsMaterial, hcert]
  | certless _ hkey => simp [ExporterConfig.hasTlsMaterial, hkey]
  | unreadable hheld | mismatched hheld =>
    obtain ⟨v, hv, -⟩ := hheld
    exact of_configured hv

theorem Defect.rank_lt (h : Defect c f) : f.rank < 9 := by
  cases h with
  | @undecodable b | @unreadable b => cases b <;> simp [Fault.rank]
  | keyless | certless | mismatched => simp [Fault.rank]

theorem ofConfig_eq_ok_none_iff : Material.ofConfig c = .ok none ↔ c.hasTlsMaterial = false := by
  constructor
  · intro h
    by_contra hsome
    rcases checked_ofConfig (by simpa using hsome) with ⟨hok, -⟩ | ⟨f, hf, -⟩
    · cases h.symm.trans hok
    · cases h.symm.trans hf
  · intro h
    simp [Material.ofConfig, h]
    rfl

theorem ofConfig_eq_error_iff : Material.ofConfig c = .error f ↔ FirstDefect c f := by
  constructor
  · intro h
    have hsome : c.hasTlsMaterial = true := by
      by_contra hnone
      cases h.symm.trans (ofConfig_eq_ok_none_iff.mpr (by simpa using hnone))
    rcases checked_ofConfig hsome with ⟨hok, -⟩ | ⟨g, hg, hfirst⟩
    · cases h.symm.trans hok
    · cases h.symm.trans hg
      exact (hfirst f).mpr rfl
  · intro h
    rcases checked_ofConfig h.1.hasTlsMaterial with ⟨-, hclear⟩ | ⟨g, hg, hfirst⟩
    · exact absurd (hclear f h.1) (Nat.not_le_of_lt h.1.rank_lt)
    · rw [hg, (hfirst f).mp h]

theorem ofConfig_eq_ok_some {m : Material} (h : Material.ofConfig c = .ok (some m)) :
    (∀ f, ¬ Defect c f) ∧ m = ⟨identity? c, roots c⟩ := by
  have hsome : c.hasTlsMaterial = true := by
    by_contra hnone
    cases h.symm.trans (ofConfig_eq_ok_none_iff.mpr (by simpa using hnone))
  rcases checked_ofConfig hsome with ⟨hok, hclear⟩ | ⟨f, hf, -⟩
  · cases h.symm.trans hok
    exact ⟨fun f hf ↦ Nat.not_le_of_lt hf.rank_lt (hclear f hf), rfl⟩
  · cases h.symm.trans hf

/-- What credentials hold when nothing is wrong with them: an identity if both halves of one are
configured, and all certificates to trust, at least one if any are configured. -/
structure Fits (c : ExporterConfig) (m : Material) : Prop where
  identity : m.hasIdentity = true ↔ c.cert.isSome = true ∧ c.key.isSome = true
  roots : c.ca = none ∧ m.roots.length = 0 ∨ ∃ pem, Holds c .ca pem ∧ 0 < m.roots.length ∧
    m.roots.length = (Pem.read pem).1.countP (·.label = .certificate)

theorem fits_of_no_defect (h : ∀ f, ¬ Defect c f) : Fits c ⟨identity? c, roots c⟩ := by
  have hclear (g : Fault) (hg : Defect c g) : 3 ≤ g.rank := absurd hg (h g)
  have hcert : (held? c .certificate).isSome = c.cert.isSome :=
    isSome_held?_of_clear hclear (by decide)
  have hkey : (held? c .key).isSome = c.key.isSome := isSome_held?_of_clear hclear (by decide)
  have hca : (held? c .ca).isSome = c.ca.isSome := isSome_held?_of_clear hclear (by decide)
  constructor
  · rw [← hcert, ← hkey]
    unfold Material.hasIdentity identity?
    cases held? c .certificate <;> cases held? c .key <;> simp
  · unfold Credentials.roots
    cases hheld : held? c .ca with
    | none =>
      rw [hheld] at hca
      exact .inl ⟨by simpa using hca.symm, rfl⟩
    | some pem =>
      have hpem : Holds c .ca pem := held?_eq_some_iff.mp hheld
      have hne : contents pem ≠ [] := by
        cases hcerts : certificates .ca pem with
        | error f =>
          obtain ⟨cause, rfl, hbroken⟩ := (certificates_eq_error_iff (.inr rfl)).mp hcerts
          exact absurd (.unreadable hpem hbroken) (h _)
        | ok certs =>
          obtain ⟨-, rfl, hne⟩ := certificates_eq_ok hcerts
          exact hne
      refine .inr ⟨pem, hpem, List.length_pos_of_ne_nil hne, ?_⟩
      simp [contents, List.countP_eq_length_filter]

/-- Reading the credentials of a configuration
* comes to nothing just when all three fields are blank;
* fails just when there is a defect, over the one of the lowest rank;
* comes to what is configured in any other case.

So an error that names an artifact as undecodable or unreadable names one that is configured, and
that is what is wrong with it. -/
theorem ofConfig_settled (c : ExporterConfig) :
    (Material.ofConfig c = .ok none ↔ Blank c.tlsCert ∧ Blank c.tlsKey ∧ Blank c.tlsCa) ∧
    (∀ f, Material.ofConfig c = .error f ↔ FirstDefect c f) ∧
    ((∃ m, Material.ofConfig c = .ok (some m)) ↔
      (∀ f, ¬ Defect c f) ∧ ¬ (Blank c.tlsCert ∧ Blank c.tlsKey ∧ Blank c.tlsCa)) ∧
    (∀ m, Material.ofConfig c = .ok (some m) → Fits c m) ∧
    (∀ a cause, Material.ofConfig c = .error (.undecodable a cause) → ∃ v,
      configured? c a = some v ∧
        Base64.decode (Utf8.encode (Text.withoutBlanks v)) = .error cause) ∧
    ∀ a cause, Material.ofConfig c = .error (.unreadable a cause) →
      ∃ pem, Holds c a pem ∧ Illegible pem a cause := by
  refine ⟨?_, fun f ↦ ofConfig_eq_error_iff, ⟨?_, ?_⟩, ?_, ?_, ?_⟩
  · rw [ofConfig_eq_ok_none_iff, hasTlsMaterial_eq_false_iff]
  · rintro ⟨m, hm⟩
    refine ⟨(ofConfig_eq_ok_some hm).1, fun hblank ↦ ?_⟩
    rw [← hasTlsMaterial_eq_false_iff, ← ofConfig_eq_ok_none_iff, hm] at hblank
    cases hblank
  · rintro ⟨hfree, hblank⟩
    rw [← hasTlsMaterial_eq_false_iff, Bool.not_eq_false] at hblank
    rcases checked_ofConfig hblank with ⟨hok, -⟩ | ⟨f, -, hfirst⟩
    · exact ⟨_, hok⟩
    · exact absurd ((hfirst f).mpr rfl).1 (hfree f)
  · intro m hm
    obtain ⟨hfree, rfl⟩ := ofConfig_eq_ok_some hm
    exact fits_of_no_defect hfree
  · intro a cause h
    cases (ofConfig_eq_error_iff.mp h).1 with
    | undecodable hv hbroken => exact ⟨_, hv, hbroken⟩
  · intro a cause h
    cases (ofConfig_eq_error_iff.mp h).1 with
    | unreadable hheld hbroken => exact ⟨_, hheld, hbroken⟩

/-- An artifact that does not decode comes before the missing half of an identity. -/
example : Material.ofConfig { tlsCert := some "AAAA", tlsCa := some "*" } =
    .error (.undecodable .ca (.symbol 42 0)) := by decide +kernel

end Reading

end Telemetry.Credentials
