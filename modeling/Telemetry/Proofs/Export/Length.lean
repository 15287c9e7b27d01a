import Mathlib
import Telemetry.Proofs.Export.Agreement

namespace Telemetry

open Url

def lead : List Char :=
  ['h', 't', 't', 'p', ':', '/', '/', '[', ':', ':', '1', ']', ':', '1', '?']

/-- The text of an endpoint whose query makes it as long as one likes. -/
def padding (n : Nat) : List Char := lead ++ List.replicate n 'a'

def padded (n : Nat) : ExporterConfig :=
  { serviceName := "orders", endpoint := String.ofList (padding n) }

theorem serviceName_padded (n : Nat) : (padded n).serviceName = "orders" := rfl

def paddedUrl (n : Nat) : Url :=
  { scheme := ['h', 't', 't', 'p'], host := some (.ipv6 [0, 0, 0, 0, 0, 0, 0, 1]), port := some 1
    path := ['/'], query := some (List.replicate n 'a') }

theorem forall_padding {p : Char → Bool} (hl : lead.all p = true) (ha : p 'a' = true) (n : Nat) :
    ∀ c ∈ padding n, p c = true := by
  intro c hc
  rcases List.mem_append.mp hc with hc | hc
  · exact List.all_eq_true.mp hl c hc
  · rw [List.eq_of_mem_replicate hc]
    exact ha

theorem stripped_eq {p : Char → Bool} {cs : List Char} (h : ∀ c ∈ cs, (!p c) = true) :
    ((cs.dropWhile p).reverse.dropWhile p).reverse = cs := by
  have keep {l : List Char} (hl : ∀ c ∈ l, c ∈ cs) : l.dropWhile p = l := by
    cases l with
    | nil => rfl
    | cons c l => simpa using h c (hl c (by simp))
  rw [keep fun c hc ↦ hc, keep fun c hc ↦ List.mem_reverse.mp hc, List.reverse_reverse]

theorem trim_padding (n : Nat) : Text.trim (String.ofList (padding n)) = String.ofList (padding n) := by
  have hb := forall_padding (p := fun c ↦ !Text.isBlank c) (by decide +kernel) (by decide) n
  rw [Text.trim, Text.trimChars, String.toList_ofList, stripped_eq hb]

theorem clean_padding (n : Nat) : clean (padding n) = padding n := by
  have he := forall_padding (p := fun c ↦ !isEdge c) (by decide +kernel) (by decide) n
  have hk := forall_padding (p := fun c ↦ !(c == '\t' || c == '\n' || c == '\r'))
    (by decide +kernel) (by decide) n
  rw [clean, stripped_eq he, List.filter_eq_self.mpr hk]

-- The address can be evaluated as it stands. A query of unknown length cannot, so every stage of the
-- parser is run by a lemma of its own.
set_option maxRecDepth 2000 in
theorem parseAuthority_padding (n : Nat) :
    parseAuthority .special ['h', 't', 't', 'p'] ((padding n).drop 7) =
      .ok ({ host := (paddedUrl n).host, port := some 1 }, '?' :: List.replicate n 'a') := by
  have htake : ((padding n).drop 7).takeWhile (fun c ↦ !Kind.special.endsAuthority c) =
      ['[', ':', ':', '1', ']', ':', '1'] := rfl
  have hdrop : ((padding n).drop 7).dropWhile (fun c ↦ !Kind.special.endsAuthority c) =
      '?' :: List.replicate n 'a' := rfl
  have hat : splitAtSign ['[', ':', ':', '1', ']', ':', '1'] = none := by decide
  have hplace : splitHost .special false ((padding n).drop 7) =
      (['[', ':', ':', '1', ']'], ':' :: '1' :: '?' :: List.replicate n 'a') := rfl
  have hhost : parseHost ['[', ':', ':', '1', ']'] = .ok (.ipv6 [0, 0, 0, 0, 0, 0, 0, 1]) := by
    decide +kernel
  have hport : parsePort ('1' :: '?' :: List.replicate n 'a') =
      .ok (some 1, '?' :: List.replicate n 'a') := rfl
  have hword : credentials [] = ([], none) := rfl
  have hdefault : defaultPort? ['h', 't', 't', 'p'] = some 80 := by decide +kernel
  simp only [parseAuthority, htake, hdrop, hat, hplace, hword, Option.getD_none]
  simp [bind, Except.bind, pure, Except.pure, hhost, hport, hdefault, paddedUrl]

theorem encode_replicate (n : Nat) :
    Percent.encode Percent.specialQuerySet (List.replicate n 'a') = List.replicate n 'a' := by
  induction n with
  | zero => rfl
  | succ n ih =>
    have ha : Percent.encodeChar Percent.specialQuerySet 'a' = ['a'] := by decide
    rw [List.replicate_succ, Percent.encode, List.flatMap_cons, ← Percent.encode, ih, ha]
    rfl

theorem withRest_padding (n : Nat) (u : Url) :
    withRest .special u ('?' :: List.replicate n 'a') =
      { u with path := ['/'], query := some (List.replicate n 'a'), fragment := none } := by
  have hplain : ∀ c ∈ List.replicate n 'a', (c != '#') = true := by
    intro c hc
    rw [List.eq_of_mem_replicate hc]
    rfl
  have htake := List.takeWhile_eq_self_iff.mpr hplain
  have hdrop := List.dropWhile_eq_nil_iff.mpr hplain
  simp [withRest, htake, hdrop, encode_replicate]

theorem parse_padding (n : Nat) : Url.parse (String.ofList (padding n)) = .ok (paddedUrl n) := by
  have hscheme : scheme? (padding n) = some (['h', 't', 't', 'p'], (padding n).drop 5) := rfl
  have hkind : Kind.ofScheme ['h', 't', 't', 'p'] = .special := by decide +kernel
  have hslashes : ((padding n).drop 5).dropWhile (Kind.isSlash .special) = (padding n).drop 7 := rfl
  simp only [Url.parse, String.toList_ofList, clean_padding, hscheme, hkind, hslashes,
    parseAuthority_padding]
  simp only [bind, Except.bind, withRest_padding]
  rfl

theorem base_padded (n : Nat) : Endpoint.base (padded n) = .ok (paddedUrl n) := by
  have hsep : Endpoint.hasSeparator (padding n) = true := rfl
  have hs : Endpoint.withScheme (padded n) = String.ofList (padding n) := by
    simp only [Endpoint.withScheme, padded, trim_padding, String.toList_ofList, hsep, if_true]
  simp only [Endpoint.base, hs, parse_padding, Except.mapError]
  rfl

theorem utf8Len_replicate (n : Nat) : String.utf8Len (List.replicate n 'a') = n := by
  induction n with
  | zero => rfl
  | succ n ih =>
    rw [List.replicate_succ, String.utf8Len_cons, ih]
    rfl

theorem authority_padded (n : Nat) :
    (paddedUrl n).authority = ['/', '/', '[', ':', ':', '1', ']', ':', '1'] := by
  have hsame : (paddedUrl n).authority = (paddedUrl 0).authority := rfl
  rw [hsame]
  decide +kernel

theorem size_padded (n : Nat) (k : Signal) :
    (Endpoint.withSignalPath k (paddedUrl n)).render.utf8ByteSize =
      15 + k.path.utf8ByteSize + n := by
  have hrender : (Endpoint.withSignalPath k (paddedUrl n)).render = String.ofList
      (['h', 't', 't', 'p'] ++ ':' :: (paddedUrl n).authority ++ k.path.toList ++
        '?' :: List.replicate n 'a' ++ []) := rfl
  have hpath : String.utf8Len k.path.toList = k.path.utf8ByteSize := by
    rw [← String.utf8ByteSize_ofList, String.ofList_toList]
  rw [hrender, String.utf8ByteSize_ofList, authority_padded]
  simp only [String.utf8Len_append, String.utf8Len_cons, String.utf8Len_nil, utf8Len_replicate,
    hpath]
  simp [Char.utf8Size]
  omega

theorem outcome_prepare_padded (n : Nat) (k : Signal) :
    outcome (Export.prepare (padded n) k) =
      .ok (Endpoint.withSignalPath k (paddedUrl n), {}) := by
  refine (Export.outcome_prepare_eq_ok _ k).mpr ⟨?_, ?_, rfl⟩
  · have hname : Text.isBlankText (padded n).serviceName = false := by
      rw [serviceName_padded]
      decide
    rw [ExporterConfig.validate, hname]
    rfl
  · rw [Export.endpoint, Endpoint.url, base_padded]
    rfl

theorem isDisabled_padded (n : Nat) : (padded n).isDisabled = false := by
  rw [ExporterConfig.isDisabled, Text.isBlankText, padded, String.toList_ofList]
  rfl

theorem utf8ByteSize_path (k : Signal) : k.path.utf8ByteSize = match k with
    | .traces => 10
    | .metrics => 11
    | .logs => 8 := by
  cases k <;> rfl

theorem uniform_padded {n : Nat} (h : 26 + n ≤ Export.longestTarget) :
    Export.Uniform (padded n) := by
  intro u hu k k' hlong
  rw [base_padded] at hu
  cases hu
  have hpath : k.path.utf8ByteSize ≤ 11 := by
    rw [utf8ByteSize_path]
    cases k <;> decide
  rw [size_padded] at hlong
  omega

theorem made_padded (ids : IdSource) (resource : Resource) (n : Nat) (k : Signal) :
    Pipeline.made ids resource (padded n) k =
      if Export.longestTarget < 15 + k.path.utf8ByteSize + n then
        .error (.exporter k (.target .length))
      else .ok (some {
        signal := k
        url := Endpoint.withSignalPath k (paddedUrl n)
        client := {}
        resource
        feed := Pipeline.feedOf ids (padded n) k }) := by
  have hhost : (paddedUrl n).host = some (.ipv6 [0, 0, 0, 0, 0, 0, 0, 1]) := rfl
  have hsendable : (Url.Host.ipv6 [0, 0, 0, 0, 0, 0, 0, 1]).render.all Export.isSendable = true := by
    decide +kernel
  rw [Pipeline.made_eq, isDisabled_padded, if_neg Bool.false_ne_true, outcome_prepare_padded,
    Pipeline.ofPrepared, Export.refusal?, size_padded, Export.host_withSignalPath, hhost]
  simp only [Option.any_some, hsendable]
  split <;> simp_all

end Telemetry
