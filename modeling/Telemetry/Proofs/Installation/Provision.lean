import Mathlib
import Telemetry.Proofs.Installation.Failure

namespace Telemetry

open ProviderCache ( entry?)

namespace Installation

open Registry

variable {resource : Resource} {c : ExporterConfig} {k : Signal} {reg reg' : Registry}
  {answer : Except SetupError (Option Nat)}

inductive Provision (resource : Resource) (c : ExporterConfig) (k : Signal) (reg : Registry) :
    Except SetupError (Option Nat) → Registry → Prop
  | found {p : Nat} (live : reg.live? k c.serviceName = some p) :
      Provision resource c k reg (.ok (some p)) reg
  | off (known : reg.status k c.serviceName = some false) :
      Provision resource c k reg (.ok none) reg
  | noted (es : List Event) (unknown : reg.status k c.serviceName = none) :
      Provision resource c k reg (.ok none) ((reg.deny k c.serviceName).report es)
  | failed {e : SetupError} (es : List Event) (dead : reg.live? k c.serviceName = none) :
      Provision resource c k reg (.error e) (reg.report es)
  | made {p : Pipeline} (es : List Event) (dead : reg.live? k c.serviceName = none)
      (built : Pipeline.made reg.ids resource c k = .ok (some p)) :
      Provision resource c k reg (.ok (some reg.pipelines.length))
        ((reg.engage k c.serviceName p).report es)

theorem provide_effect (resource : Resource) (c : ExporterConfig) (k : Signal) (reg : Registry) :
    Provision resource c k reg (provide resource c k reg).1 (provide resource c k reg).2 := by
  rcases hl : reg.live? k c.serviceName with - | p
  · rcases hm : Pipeline.made reg.ids resource c k with e | - | p
    · obtain ⟨es, h⟩ := provide_of_error hl hm
      rw [h]
      exact .failed es hl
    · have hd : c.isDisabled = true := by
        by_contra hd
        rcases Pipeline.made_of_enabled reg.ids resource k (Bool.eq_false_iff.mpr hd) with
          ⟨p, hp, _⟩ | ⟨e, he⟩
        · cases hm.symm.trans hp
        · cases hm.symm.trans he
      rcases hentry : entry? (reg.caches.get k) c.serviceName with - | - | p
      · obtain ⟨es, h⟩ : ∃ es, provide resource c k reg =
            (.ok none, (reg.deny k c.serviceName).report es) := provide_of_disabled hentry hd
        rw [h]
        exact .noted es (by simp [status, hentry])
      · have hhit : (reg.caches.get k).hit? (request c) = some ⟨none, .cached⟩ := by
          simp [ProviderCache.hit?, request, hentry, hd]
        rw [provide_of_hit hhit]
        exact .off (by simp [status, hentry])
      · rw [live?, ProviderCache.live?, hentry] at hl
        cases hl
    · obtain ⟨es, h⟩ := provide_of_made hl hm
      rw [h]
      exact .made es hl hm
  · rw [provide_of_live hl]
    exact .found hl

namespace Provision

theorem live?_eq {found : Option Nat} (h : Provision resource c k reg (.ok found) reg') :
    reg'.live? k c.serviceName = found := by
  cases h with
  | found hlive => exact hlive
  | off hknown => exact live?_eq_none_of_status (by simp [hknown])
  | noted => exact (live?_deny reg k k _ _).trans (if_pos ⟨rfl, rfl⟩)
  | @made q => exact (live?_engage reg k k _ _ q).trans (if_pos ⟨rfl, rfl⟩)

theorem live?_of_ne (h : Provision resource c k reg answer reg') {k' : Signal} {key : String}
    (hne : ¬ (k = k' ∧ c.serviceName = key)) : reg'.live? k' key = reg.live? k' key := by
  cases h with
  | found | off | failed => rfl
  | noted => exact (live?_deny reg k k' _ _).trans (if_neg hne)
  | @made q => exact (live?_engage reg k k' _ _ q).trans (if_neg hne)

theorem live?_mono (h : Provision resource c k reg answer reg') {k' : Signal} {key : String}
    {p : Nat} (hl : reg.live? k' key = some p) : reg'.live? k' key = some p := by
  by_cases heq : k = k' ∧ c.serviceName = key
  · obtain ⟨rfl, rfl⟩ := heq
    cases h with
    | found | off | failed => exact hl
    | noted es hunknown =>
      have hdead : reg.live? k c.serviceName = none :=
        live?_eq_none_of_status (by simp [hunknown])
      cases hdead.symm.trans hl
    | made es hdead => cases hdead.symm.trans hl
  · rw [h.live?_of_ne heq, hl]

end Provision

theorem install_induction {P : Registry → Prop} (h : P reg)
    (hprovide : ∀ k now, P now → P (provide resource c k now).2)
    (htraced : ∀ now : Registry, P now → P now.traced) : P (install resource c reg).2 := by
  unfold install
  have ht := hprovide .traces reg h
  rcases h₁ : provide resource c .traces reg with ⟨e | traces, reg₁⟩
  · rwa [h₁] at ht
  rw [h₁] at ht
  have hm := hprovide .metrics reg₁ ht
  dsimp only
  rcases h₂ : provide resource c .metrics reg₁ with ⟨e | metrics, reg₂⟩
  · rwa [h₂] at hm
  rw [h₂] at hm
  have hl := hprovide .logs reg₂ hm
  dsimp only
  rcases h₃ : provide resource c .logs reg₂ with ⟨e | logs, reg₃⟩
  · rwa [h₃] at hl
  · rw [h₃] at hl
    exact htraced reg₃ hl

theorem provider_of_install {i : Installation} (h : (install resource c reg).1 = .ok i)
    (k : Signal) : i.provider k = (install resource c reg).2.live? k c.serviceName := by
  have ht := provide_effect resource c .traces reg
  rcases h₁ : provide resource c .traces reg with ⟨e | traces, reg₁⟩
  · simp only [install, h₁] at h
    cases h
  have hm := provide_effect resource c .metrics reg₁
  rcases h₂ : provide resource c .metrics reg₁ with ⟨e | metrics, reg₂⟩
  · simp only [install, h₁, h₂] at h
    cases h
  have hl := provide_effect resource c .logs reg₂
  rcases h₃ : provide resource c .logs reg₂ with ⟨e | logs, reg₃⟩
  · simp only [install, h₁, h₂, h₃] at h
    cases h
  simp only [install, h₁, h₂, h₃] at h ⊢
  cases h
  rw [h₁] at ht
  rw [h₂] at hm
  rw [h₃] at hl
  show _ = reg₃.live? k c.serviceName
  cases k with
  | traces => rw [hl.live?_of_ne (by simp), hm.live?_of_ne (by simp), ht.live?_eq]; rfl
  | metrics => rw [hl.live?_of_ne (by simp), hm.live?_eq]; rfl
  | logs => rw [hl.live?_eq]; rfl

theorem live?_install (resource : Resource) {c : ExporterConfig} {key : String} {p : Nat}
    (hl : reg.live? k key = some p) : (install resource c reg).2.live? k key = some p :=
  install_induction (P := fun now ↦ now.live? k key = some p) hl
    (fun _ now h ↦ (provide_effect resource c _ now).live?_mono h) fun _ h ↦ h

end Installation

end Telemetry
