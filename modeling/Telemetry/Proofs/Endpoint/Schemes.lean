import Mathlib
import Telemetry.Proofs.Export.Agreement
import Telemetry.Proofs.Text.Trim

namespace Telemetry

namespace Url

variable {cs : List Char} {s : String} {u : Url}

theorem scheme?_eq_some {scheme rest : List Char} (h : scheme? cs = some (scheme, rest)) :
    ∃ name, cs = name ++ ':' :: rest ∧ name.map Char.toLower = scheme := by
  have hsplit := List.takeWhile_append_dropWhile (p := isSchemeChar) (l := cs)
  unfold scheme? at h
  split at h
  · next c name rest' htake hdrop =>
    split at h
    · cases h
      rw [htake, hdrop] at hsplit
      exact ⟨c :: name, hsplit.symm, rfl⟩
    · cases h
  · cases h

theorem scheme_parseFile {scheme : List Char} (h : parseFile scheme cs = .ok u) :
    u.scheme = scheme := by
  unfold parseFile at h
  rcases cs with - | ⟨a, - | ⟨b, rest⟩⟩
  · cases h
    rfl
  · cases h
    rfl
  · simp only at h
    split at h
    · split at h
      · cases h
        rfl
      · cases hh : parseHost (rest.takeWhile fun c ↦ !Kind.file.endsAuthority c) with
        | error f =>
          rw [hh] at h
          cases h
        | ok host =>
          rw [hh] at h
          cases h
          rfl
    · cases h
      rfl

def ofAuthority (k : Kind) (scheme : List Char) (a : Authority) (after : List Char) : Url :=
  withRest k { scheme, username := a.username, password := a.password, host := a.host,
               port := a.port, path := [] } after

theorem parse_cases (h : Url.parse s = .ok u) :
    ∃ rest, scheme? (clean s.toList) = some (u.scheme, rest) ∧
      (Kind.ofScheme u.scheme = .special → ∃ a after,
        parseAuthority .special u.scheme (rest.dropWhile (Kind.isSlash .special)) = .ok (a, after) ∧
          u = ofAuthority .special u.scheme a after) := by
  unfold Url.parse at h
  cases hs : scheme? (clean s.toList) with
  | none => simp [hs] at h
  | some p =>
    obtain ⟨scheme, rest⟩ := p
    have inverted {k : Kind} {text : List Char}
        (hauth : (parseAuthority k scheme text >>= fun p ↦
          .ok (ofAuthority k scheme p.1 p.2)) = .ok u) :
        u.scheme = scheme ∧ ∃ a after, parseAuthority k scheme text = .ok (a, after) ∧
          u = ofAuthority k scheme a after := by
      rcases hp : parseAuthority k scheme text with f | ⟨a, after⟩
      · rw [hp] at hauth
        cases hauth
      · rw [hp] at hauth
        cases hauth
        exact ⟨rfl, a, after, rfl, rfl⟩
    simp only [hs] at h
    cases hk : Kind.ofScheme scheme with
    | special =>
      simp only [hk] at h
      obtain ⟨hscheme, a, after, ha, hu⟩ := inverted h
      rw [hscheme]
      exact ⟨rest, rfl, fun _ ↦ ⟨a, after, ha, hu⟩⟩
    | file =>
      simp only [hk] at h
      rw [scheme_parseFile h]
      exact ⟨rest, rfl, fun hspecial ↦ by simp [hk] at hspecial⟩
    | plain =>
      simp only [hk] at h
      have hscheme : u.scheme = scheme := by
        split at h
        · contradiction
        · contradiction
        · exact (inverted h).1
        · cases h
          rfl
      rw [hscheme]
      exact ⟨rest, rfl, fun hspecial ↦ by simp [hk] at hspecial⟩

end Url

namespace Endpoint

open Text (IsTrimmed)

def hasScheme (cs : List Char) : Bool :=
  cs.head?.any Char.isAlpha && [':', '/', '/'].isPrefixOf (cs.dropWhile Url.isSchemeChar)

def defaultScheme (insecure : Bool) : String := if insecure then "http://" else "https://"

/-- A configuration whose endpoint has its default scheme written out. -/
def explicit (c : ExporterConfig) : ExporterConfig :=
  { c with endpoint := defaultScheme c.insecure ++ Text.trim c.endpoint }

def IsWeb (scheme : List Char) : Prop := scheme = "http".toList ∨ scheme = "https".toList

def OpensWeb (cs : List Char) : Prop :=
  ∃ name rest, cs = name ++ ':' :: rest ∧ IsWeb (name.map Char.toLower)

variable {c : ExporterConfig} {k : Signal} {u b : Url}

theorem withScheme_of_separator (h : hasSeparator (Text.trim c.endpoint).toList = true) :
    withScheme c = Text.trim c.endpoint := if_pos h

theorem withScheme_of_bare (h : hasSeparator (Text.trim c.endpoint).toList = false) :
    withScheme c = defaultScheme c.insecure ++ Text.trim c.endpoint := by
  unfold withScheme defaultScheme
  simp only [h, Bool.false_eq_true, if_false]

theorem trim_explicit (c : ExporterConfig) :
    Text.trim (explicit c).endpoint = defaultScheme c.insecure ++ Text.trim c.endpoint := by
  refine Text.trim_eq_self ?_
  have hfront : IsTrimmed (defaultScheme c.insecure).toList := by
    refine Text.IsSolid.isTrimmed ?_
    cases c.insecure <;> decide
  have hback : IsTrimmed (Text.trim c.endpoint).toList := by
    rw [Text.toList_trim]
    exact Text.isTrimmed_trimChars _
  rw [explicit, String.toList_append]
  exact hfront.append hback

theorem withScheme_explicit (c : ExporterConfig) :
    withScheme (explicit c) = defaultScheme c.insecure ++ Text.trim c.endpoint := by
  rw [← trim_explicit]
  refine withScheme_of_separator ?_
  rw [trim_explicit, String.toList_append]
  cases c.insecure <;> rfl

theorem base_eq_ok_iff : base c = .ok b ↔
    Url.parse (withScheme c) = .ok b ∧ b.host.isSome = true ∧ IsWeb b.scheme := by
  have hweb (u : Url) : (u.scheme != "http".toList && u.scheme != "https".toList) = true ↔
      ¬ IsWeb u.scheme := by simp [IsWeb]
  unfold base
  cases Url.parse (withScheme c) with
  | error f => simp [Except.mapError, bind, Except.bind]
  | ok u =>
    simp only [Except.mapError, bind, Except.bind, Except.ok.injEq]
    split
    · next hnone =>
      refine ⟨nofun, ?_⟩
      rintro ⟨rfl, hhost, -⟩
      simp_all
    · next hhost =>
      split
      · next hother =>
        refine ⟨nofun, ?_⟩
        rintro ⟨rfl, -, hscheme⟩
        exact absurd hscheme ((hweb u).mp hother)
      · next hscheme =>
        rw [hweb, not_not] at hscheme
        constructor
        · rintro ⟨⟩
          exact ⟨rfl, by simpa [Option.isSome_iff_ne_none] using hhost, hscheme⟩
        · rintro ⟨rfl, -⟩
          rfl

theorem url_eq_ok_iff : url c k = .ok u ↔ ∃ b, base c = .ok b ∧ withSignalPath k b = u := by
  unfold url
  cases base c <;> simp [Except.map]

theorem scheme_withSignalPath (k : Signal) (u : Url) : (withSignalPath k u).scheme = u.scheme := by
  unfold withSignalPath
  split <;> rfl

theorem url_explicit_of_bare (h : hasSeparator (Text.trim c.endpoint).toList = false)
    (k : Signal) : url c k = url (explicit c) k := by
  unfold url base
  rw [withScheme_of_bare h, withScheme_explicit]

theorem opensWeb_of_separator (hsep : hasSeparator (Text.trim c.endpoint).toList = true)
    (h : url c k = .ok u) : OpensWeb (Url.clean (Text.trim c.endpoint).toList) ∧
      ∃ b, Url.parse (Text.trim c.endpoint) = .ok b ∧ withSignalPath k b = u := by
  obtain ⟨b, hb, hu⟩ := url_eq_ok_iff.mp h
  obtain ⟨hparse, -, hweb⟩ := base_eq_ok_iff.mp hb
  rw [withScheme_of_separator hsep] at hparse
  obtain ⟨rest, hscheme, -⟩ := Url.parse_cases hparse
  obtain ⟨name, hcs, hname⟩ := Url.scheme?_eq_some hscheme
  exact ⟨⟨name, rest, hcs, hname ▸ hweb⟩, b, hparse, hu⟩

/-- An endpoint comes to the same URL as its explicit form, where that comes to one, just when
* there is no separator in it, or
* it begins with a scheme of its own and by itself is read as the same URL. -/
theorem url_eq_explicit_iff (h : url (explicit c) k = .ok u) : url c k = .ok u ↔
    hasSeparator (Text.trim c.endpoint).toList = false ∨
      OpensWeb (Url.clean (Text.trim c.endpoint).toList) ∧
        ∃ b, Url.parse (Text.trim c.endpoint) = .ok b ∧ withSignalPath k b = u := by
  cases hsep : hasSeparator (Text.trim c.endpoint).toList with
  | false => simp [url_explicit_of_bare hsep, h]
  | true =>
    simp only [Bool.true_eq_false, false_or]
    refine ⟨opensWeb_of_separator hsep, ?_⟩
    rintro ⟨-, b, hparse, rfl⟩
    obtain ⟨b', hb', hu⟩ := url_eq_ok_iff.mp h
    obtain ⟨-, hhost, hweb⟩ := base_eq_ok_iff.mp hb'
    have hhost' : b'.host = b.host := by
      rw [← Export.host_withSignalPath k, hu, Export.host_withSignalPath]
    have hscheme' : b'.scheme = b.scheme := by
      rw [← scheme_withSignalPath k, hu, scheme_withSignalPath]
    refine url_eq_ok_iff.mpr ⟨b, base_eq_ok_iff.mpr ⟨?_, hhost' ▸ hhost, hscheme' ▸ hweb⟩, rfl⟩
    rw [withScheme_of_separator hsep, hparse]

def relayed : ExporterConfig :=
  { serviceName := "orders", endpoint := "[::1]:4318/relay" }

def relayedUrl : Url :=
  { scheme := "https".toList, host := some (.ipv6 [0, 0, 0, 0, 0, 0, 0, 1]), port := some 4318
    path := "/relay".toList }

theorem url_relayed : url (explicit relayed) .traces = .ok relayedUrl ∧
    url relayed .traces = .ok relayedUrl := by
  have hexplicit : url (explicit relayed) .traces = .ok relayedUrl := by decide +kernel
  exact ⟨hexplicit, (url_eq_explicit_iff hexplicit).mpr (.inl (by decide +kernel))⟩

def linking : ExporterConfig :=
  { serviceName := "orders", endpoint := "[::1]:4318/?next=http://app" }

def linkingUrl : Url :=
  { scheme := "https".toList, host := some (.ipv6 [0, 0, 0, 0, 0, 0, 0, 1]), port := some 4318
    path := "/v1/traces".toList, query := some "next=http://app".toList }

/-- There is no scheme in front of that endpoint, and none is put there. -/
theorem url_linking : hasScheme (Text.trim linking.endpoint).toList = false ∧
    url (explicit linking) .traces = .ok linkingUrl ∧
    url linking .traces = .error (.url .relativeWithoutBase) :=
  ⟨by decide +kernel, by decide +kernel, by decide +kernel⟩

end Endpoint

end Telemetry
