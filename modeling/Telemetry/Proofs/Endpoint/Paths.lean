import Mathlib
import Telemetry.Export.Prepare
import Telemetry.Proofs.Endpoint.Schemes

namespace Telemetry

open Text (IsSolid isBlank isSolid_nil isSolid_flatMap)

namespace Url

variable {u : Url}

namespace Percent

theorem isSolid_escape (b : UInt8) : IsSolid (escape b) := by
  have digit : ∀ n < 16, isBlank (Hex.upperDigit n) = false := by decide
  have hb := b.toNat_lt
  exact .cons rfl (.cons (digit _ (by omega)) (.cons (digit _ (by omega)) isSolid_nil))

theorem isSolid_encodeChar {set : List Char} (hset : ' ' ∈ set) (c : Char) :
    IsSolid (encodeChar set c) := by
  unfold encodeChar
  split
  · exact isSolid_flatMap fun b _ ↦ isSolid_escape b
  · next hkept =>
    simp only [Bool.or_eq_true, decide_eq_true_eq, List.contains_iff_mem, not_or, not_lt,
      not_le] at hkept
    obtain ⟨⟨hlow, hhigh⟩, hmem⟩ := hkept
    -- Between the controls and the end of ASCII, the space is all the white space there is.
    have hspace : c.toNat ≠ 0x20 := by
      intro h
      exact hmem ((Char.toNat_inj.mp h : c = ' ') ▸ hset)
    refine .cons ?_ isSolid_nil
    simp [isBlank]
    omega

theorem isSolid_encode {set : List Char} (hset : ' ' ∈ set) (cs : List Char) :
    IsSolid (encode set cs) :=
  isSolid_flatMap fun c _ ↦ isSolid_encodeChar hset c

end Percent

theorem mem_of_mem_parent {before : List (List Char)} {t : List Char} (h : t ∈ parent before) :
    t ∈ before := by
  unfold parent at h
  split at h
  · exact h
  · split at h
    · exact h
    · exact List.mem_cons_of_mem _ h

theorem mem_of_mem_resolve {before segments : List (List Char)} {t : List Char}
    (h : t ∈ resolve before segments) : t = [] ∨ t ∈ before ∨ t ∈ segments := by
  fun_induction resolve before segments <;> grind [mem_of_mem_parent]

theorem isSolid_normalPath (k : Kind) (cs : List Char) : IsSolid (normalPath k cs) := by
  refine isSolid_flatMap fun segment hsegment ↦ .cons rfl ?_
  rcases mem_of_mem_resolve (List.mem_reverse.mp hsegment) with rfl | hbefore | hmem
  · exact isSolid_nil
  · cases hbefore
  · obtain ⟨part, -, rfl⟩ := List.mem_map.mp hmem
    exact Percent.isSolid_encode (by decide) part

structure HasSolidTail (u : Url) : Prop where
  path : IsSolid u.path
  query : ∀ q ∈ u.query, IsSolid q
  fragment : ∀ f ∈ u.fragment, IsSolid f

theorem hasSolidTail_withRest (u : Url) (cs : List Char) :
    HasSolidTail (withRest .special u cs) where
  path := by
    simp only [withRest]
    split
    · decide
    · exact isSolid_normalPath _ _
  query := by
    intro q hq
    obtain ⟨text, -, rfl⟩ := Option.mem_map.mp hq
    exact Percent.isSolid_encode (by decide) _
  fragment := by
    intro f hf
    simp only [withRest] at hf
    split at hf
    · cases hf
      exact Percent.isSolid_encode (by decide) _
    · cases hf

def tail (u : Url) : List Char :=
  u.path ++ (match u.query with | none => [] | some q => '?' :: q) ++
    (match u.fragment with | none => [] | some f => '#' :: f)

theorem HasSolidTail.isSolid_tail (h : HasSolidTail u) : IsSolid u.tail := by
  refine (h.path.append ?_).append ?_
  · cases hq : u.query with
    | none => exact isSolid_nil
    | some q => exact .cons rfl (h.query q hq)
  · cases hf : u.fragment with
    | none => exact isSolid_nil
    | some f => exact .cons rfl (h.fragment f hf)

theorem toList_render (u : Url) :
    u.render.toList = u.scheme ++ (':' :: u.authority) ++ u.tail := by
  rw [render, String.toList_ofList, tail]
  cases u.query <;> cases u.fragment <;> simp

theorem HasSolidTail.trim_render (h : HasSolidTail u) (hweb : Endpoint.IsWeb u.scheme)
    (hpath : u.path ≠ []) : Text.trim u.render = u.render := by
  refine Text.trim_eq_self ?_
  rw [toList_render]
  refine .of_ends ?_ h.isSolid_tail ?_ ?_
  · rcases hweb with hs | hs <;> rw [hs] <;> decide
  · rcases hweb with hs | hs <;> rw [hs] <;> decide
  · simp [tail, hpath]

/-- The path says more than a slash. -/
def HasPath (u : Url) : Prop := u.path ≠ [] ∧ u.path ≠ ['/']

end Url

namespace Signal

theorem path_ne (k : Signal) : k.path.toList ≠ [] ∧ k.path.toList ≠ ['/'] := by
  cases k <;> exact ⟨by decide, by decide⟩

theorem isSolid_path (k : Signal) : IsSolid k.path.toList := by
  cases k <;> decide

theorem path_injective : Function.Injective path := by
  intro k k'
  cases k <;> cases k' <;> decide

end Signal

open Url (HasPath)

namespace Endpoint

variable {c : ExporterConfig} {b u : Url}

theorem withSignalPath_of_hasPath (h : b.HasPath) (k : Signal) : withSignalPath k b = b := by
  simp [withSignalPath, h.1, h.2]

theorem withSignalPath_of_not_hasPath (h : ¬ b.HasPath) (k : Signal) :
    withSignalPath k b = { b with path := k.path.toList } := by
  unfold withSignalPath
  exact if_pos (by simpa [HasPath, ← imp_iff_not_or, or_iff_not_imp_left] using h)

theorem hasPath_withSignalPath (k : Signal) (b : Url) : (withSignalPath k b).HasPath := by
  by_cases h : b.HasPath
  · rwa [withSignalPath_of_hasPath h]
  · rw [withSignalPath_of_not_hasPath h]
    exact k.path_ne

theorem hasSolidTail_withSignalPath (h : b.HasSolidTail) (k : Signal) :
    (withSignalPath k b).HasSolidTail := by
  by_cases hpath : b.HasPath
  · rwa [withSignalPath_of_hasPath hpath]
  · rw [withSignalPath_of_not_hasPath hpath]
    exact ⟨k.isSolid_path, h.query, h.fragment⟩

theorem injective_withSignalPath (h : ¬ b.HasPath) :
    Function.Injective fun k ↦ withSignalPath k b := by
  intro k k' hsame
  simp only [withSignalPath_of_not_hasPath h] at hsame
  exact Signal.path_injective (String.toList_injective (congrArg Url.path hsame))

theorem hasSolidTail_of_parse {s : String} (h : Url.parse s = .ok b) (hweb : IsWeb b.scheme) :
    b.HasSolidTail := by
  have hkind : Url.Kind.ofScheme b.scheme = .special := by
    rcases hweb with hs | hs <;> rw [hs] <;> decide +kernel
  obtain ⟨_, -, hspecial⟩ := Url.parse_cases h
  obtain ⟨a, after, -, hb⟩ := hspecial hkind
  rw [hb]
  exact Url.hasSolidTail_withRest _ _

theorem hasSeparator_render (hweb : IsWeb u.scheme) (hhost : u.host.isSome = true) :
    hasSeparator u.render.toList = true := by
  obtain ⟨host, hhost⟩ := Option.isSome_iff_exists.mp hhost
  rw [Url.toList_render, Url.authority, hhost]
  rcases hweb with hs | hs <;> rw [hs] <;> rfl

theorem url_of_render (hparse : Url.parse u.render = .ok u) (htail : u.HasSolidTail)
    (hweb : IsWeb u.scheme) (hhost : u.host.isSome = true) (hpath : u.HasPath)
    (hc : c.endpoint = u.render) (k : Signal) : url c k = .ok u := by
  have htrim : Text.trim c.endpoint = u.render := by rw [hc, htail.trim_render hweb hpath.1]
  have hscheme : withScheme c = u.render := by
    rw [withScheme_of_separator (by rw [htrim]; exact hasSeparator_render hweb hhost), htrim]
  have hbase : base c = .ok u := base_eq_ok_iff.mpr ⟨hscheme ▸ hparse, hhost, hweb⟩
  exact url_eq_ok_iff.mpr ⟨u, hbase, withSignalPath_of_hasPath hpath k⟩

/-- The URLs of the signals for an endpoint that is read as `b`. If `b` has a path, all of them are
`b`, and otherwise each is `b` with the path of its signal. -/
structure Serves (b : Url) (urls : Signal → Url) : Prop where
  scheme : ∀ k, IsWeb (urls k).scheme
  host : ∀ k, (urls k).host.isSome = true
  path : ∀ k, (urls k).HasPath
  kept : b.HasPath → ∀ k, urls k = b
  filled : ¬ b.HasPath → ∀ k, urls k = { b with path := k.path.toList }
  distinct : ¬ b.HasPath → Function.Injective urls

theorem serves_withSignalPath (hb : base c = .ok b) : Serves b fun k ↦ withSignalPath k b := by
  obtain ⟨-, hhost, hweb⟩ := base_eq_ok_iff.mp hb
  exact {
    scheme := fun k ↦ (scheme_withSignalPath k b).symm ▸ hweb
    host := fun k ↦ (Export.host_withSignalPath k b).symm ▸ hhost
    path := fun k ↦ hasPath_withSignalPath k b
    kept := withSignalPath_of_hasPath
    filled := withSignalPath_of_not_hasPath
    distinct := injective_withSignalPath }

end Endpoint

namespace Export

variable {c : ExporterConfig} {k : Signal} {u : Url}

theorem endpoint_eq_ok_iff : endpoint c k = .ok u ↔ Endpoint.url c k = .ok u := by
  unfold endpoint
  cases Endpoint.url c k <;> simp [Except.mapError]

/-- An endpoint comes to nothing for all signals, for one reason, or to a URL for each. Provided
that the text of such a URL is read as that URL, it is an endpoint that comes to that URL for every
signal, insecure or not. -/
theorem endpoint_settled (c : ExporterConfig) :
    (∃ part reason, ∀ k, endpoint c k = .error (.exporter k part) ∧ part.reason k = reason) ∨
      ∃ b urls, Url.parse (Endpoint.withScheme c) = .ok b ∧ Endpoint.Serves b urls ∧
        ∀ k, endpoint c k = .ok (urls k) ∧ (Url.parse (urls k).render = .ok (urls k) →
          ∀ c' k', c'.endpoint = (urls k).render → endpoint c' k' = .ok (urls k)) := by
  cases hbase : Endpoint.base c with
  | error f =>
    have hfails (k : Signal) :
        endpoint c k = .error (.exporter k (.endpoint (Text.trim c.endpoint) f)) := by
      rw [endpoint, Endpoint.url, hbase]
      rfl
    exact .inl ⟨_, _, fun k ↦ ⟨hfails k, rfl⟩⟩
  | ok b =>
    have hserves := Endpoint.serves_withSignalPath hbase
    obtain ⟨hparse, -, hweb⟩ := Endpoint.base_eq_ok_iff.mp hbase
    have htail := Endpoint.hasSolidTail_of_parse hparse hweb
    refine .inr ⟨b, _, hparse, hserves, fun k ↦ ⟨?_, ?_⟩⟩
    · exact endpoint_eq_ok_iff.mpr (Endpoint.url_eq_ok_iff.mpr ⟨b, hbase, rfl⟩)
    · intro hround c' k' hc'
      exact endpoint_eq_ok_iff.mpr (Endpoint.url_of_render hround
        (Endpoint.hasSolidTail_withSignalPath htail k) (hserves.scheme k) (hserves.host k)
        (hserves.path k) hc' k')

def tenant : ExporterConfig :=
  { serviceName := "orders", endpoint := " [::1]:4318?tenant=a " }

def tenantUrl : Url :=
  { scheme := "https".toList, host := some (.ipv6 [0, 0, 0, 0, 0, 0, 0, 1]), port := some 4318
    path := "/v1/traces".toList, query := some "tenant=a".toList }

theorem endpoint_tenant : endpoint tenant .traces = .ok tenantUrl ∧
    Url.parse tenantUrl.render = .ok tenantUrl ∧
    endpoint { tenant with endpoint := tenantUrl.render, insecure := true } .logs =
      .ok tenantUrl := by
  have hurl : endpoint tenant .traces = .ok tenantUrl := by decide +kernel
  have hround : Url.parse tenantUrl.render = .ok tenantUrl := by decide +kernel
  refine ⟨hurl, hround, ?_⟩
  rcases endpoint_settled tenant with ⟨part, reason, hfails⟩ | ⟨b, urls, -, -, hurls⟩
  · rw [(hfails .traces).1] at hurl
    cases hurl
  · obtain ⟨htraces, hagain⟩ := hurls .traces
    have hsame : tenantUrl = urls .traces := Except.ok.inj (hurl.symm.trans htraces)
    rw [← hsame] at hagain
    exact hagain hround _ _ rfl

end Export

end Telemetry
