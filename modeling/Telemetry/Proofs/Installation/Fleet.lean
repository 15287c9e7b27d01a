import Mathlib
import Telemetry.Proofs.Installation.Ledger
import Telemetry.Proofs.Installation.Provision
import Telemetry.Proofs.Installation.Retirement

namespace Telemetry

open Installation (Provision provide provide_effect)
open Lifecycle (CallEffect Rests Verb disarm)

def Deed.Plain : Deed → Prop
  | register h => h.Mild ∧ h.target? = none
  | _ => True

/-- A process with any number of lifecycles. Those in the registry are of no account. -/
structure Fleet where
  registry : Registry
  lifecycles : Nat → Lifecycle (Callback Nat)
  timeouts : Nat → Lifecycle.Timeouts

namespace Fleet

/-- The process as it is for one of the lifecycles. -/
def view (f : Fleet) (i : Nat) : Registry :=
  { f.registry with lifecycle := f.lifecycles i, timeouts := f.timeouts i }

def put (f : Fleet) (i : Nat) (reg : Registry) : Fleet :=
  { f with registry := reg, lifecycles := Function.update f.lifecycles i reg.lifecycle }

def act (f : Fleet) (e : Nat × Deed) : Fleet := f.put e.1 (e.2.perform (f.view e.1))

def after (start : Fleet) (es : List (Nat × Deed)) : Fleet := es.foldl act start

theorem after_append (start : Fleet) (first more : List (Nat × Deed)) :
    start.after (first ++ more) = (start.after first).after more := List.foldl_append ..

theorem after_concat (start : Fleet) (es : List (Nat × Deed)) (e : Nat × Deed) :
    start.after (es ++ [e]) = (start.after es).act e := by
  rw [after_append]
  rfl

def live? (f : Fleet) (k : Signal) (key : String) : Option Nat := f.registry.live? k key

def isClosed (f : Fleet) (p : Nat) : Bool := Telemetry.isClosed f.registry.pipelines p

def Retires (f : Fleet) (j : Nat) (h : Hook (Callback Nat)) (verb : Verb) : Prop :=
  (f.lifecycles j).Retires (f.timeouts j) h verb

def Retired (f : Fleet) (es : List (Nat × Deed)) (j : Nat) (h : Hook (Callback Nat)) : Prop :=
  ∃ before verb later, es = before ++ (j, .call verb) :: later ∧ (f.after before).Retires j h verb

theorem Retired.concat_iff {f : Fleet} {es : List (Nat × Deed)} {e : Nat × Deed} {j : Nat}
    {h : Hook (Callback Nat)} : f.Retired (es ++ [e]) j h ↔
      f.Retired es j h ∨ ∃ verb, e = (j, .call verb) ∧ (f.after es).Retires j h verb := by
  constructor
  · rintro ⟨before, verb, later, he, hr⟩
    rcases List.eq_nil_or_concat later with rfl | ⟨later', e', rfl⟩
    · obtain ⟨rfl, hlast⟩ := List.append_inj' he rfl
      exact .inr ⟨verb, List.singleton_inj.mp hlast, hr⟩
    · rw [List.concat_eq_append, ← List.cons_append, ← List.append_assoc] at he
      exact .inl ⟨before, verb, later', (List.append_inj' he rfl).1, hr⟩
  · rintro (⟨before, verb, later, rfl, hr⟩ | ⟨verb, rfl, hr⟩)
    · exact ⟨before, verb, later ++ [e], by simp, hr⟩
    · exact ⟨es, verb, [], rfl, hr⟩

section Put

variable (f : Fleet) (i : Nat) (reg reg' : Registry)

@[simp] theorem put_put : (f.put i reg).put i reg' = f.put i reg' := by
  simp [put]

@[simp] theorem registry_put : (f.put i reg).registry = reg := rfl

theorem lifecycles_put (j : Nat) :
    (f.put i reg).lifecycles j = if j = i then reg.lifecycle else f.lifecycles j :=
  Function.update_apply ..

theorem lifecycles_put_self : (f.put i reg).lifecycles i = reg.lifecycle := Function.update_self ..

end Put

structure Sound (f : Fleet) : Prop where
  rests : ∀ i, (f.lifecycles i).Rests
  mild : ∀ i, ∀ h ∈ (f.lifecycles i).hooks, h.Mild
  known : ∀ i, ∀ h ∈ (f.lifecycles i).hooks, ∀ p, h.target? = some p →
    p < f.registry.pipelines.length

/-- A service has got a provider that was built for one of the lifecycles. -/
structure Kept (f : Fleet) (k : Signal) (key : String) (j p : Nat) : Prop where
  live : f.live? k key = some p
  built : p < f.registry.pipelines.length
  sole : ∀ i, ∀ h ∈ (f.lifecycles i).hooks, h.target? = some p →
    i = j ∧ h = shutdownHook k key defaultShutdownLimit p
  bound : (f.lifecycles j).Calm →
    shutdownHook k key defaultShutdownLimit p ∈ (f.lifecycles j).hooks

section Steps

variable {f : Fleet} {i j p : Nat} {reg reg' : Registry} {k k' : Signal} {key : String}
  {resource : Resource} {c : ExporterConfig} {answer : Except SetupError (Option Nat)}

theorem Sound.put (hs : Sound f) (hrest : reg.lifecycle.Rests)
    (hmild : ∀ h ∈ reg.lifecycle.hooks, h.Mild)
    (hknown : ∀ h ∈ reg.lifecycle.hooks, ∀ p, h.target? = some p → p < reg.pipelines.length)
    (hmore : f.registry.pipelines.length ≤ reg.pipelines.length) : Sound (f.put i reg) where
  rests j := by
    rw [lifecycles_put]
    split
    · exact hrest
    · exact hs.rests j
  mild j := by
    rw [lifecycles_put]
    split
    · exact hmild
    · exact hs.mild j
  known j := by
    rw [lifecycles_put]
    split
    · exact hknown
    · exact fun h hh p ht ↦ (hs.known j h hh p ht).trans_le hmore

theorem Kept.put (hk : Kept f k key j p) (hlive : reg.live? k key = some p)
    (hmore : f.registry.pipelines.length ≤ reg.pipelines.length)
    (hsole : ∀ h ∈ reg.lifecycle.hooks, h.target? = some p →
      i = j ∧ h = shutdownHook k key defaultShutdownLimit p)
    (hbound : i = j → reg.lifecycle.Calm →
      shutdownHook k key defaultShutdownLimit p ∈ reg.lifecycle.hooks) :
    Kept (f.put i reg) k key j p where
  live := hlive
  built := hk.built.trans_le hmore
  sole i' := by
    rw [lifecycles_put]
    split
    · next heq => exact heq ▸ hsole
    · exact hk.sole i'
  bound := by
    rw [lifecycles_put]
    split
    · next heq => exact hbound heq.symm
    · exact hk.bound

section Frames

variable {h : Hook (Callback Nat)} (hmore : f.registry.pipelines.length ≤ reg.pipelines.length)

include hmore

theorem Sound.same (hs : Sound f) (hl : reg.lifecycle = f.lifecycles i) : Sound (f.put i reg) :=
  hs.put (hl ▸ hs.rests i) (hl ▸ hs.mild i)
    (hl ▸ fun h hh p ht ↦ (hs.known i h hh p ht).trans_le hmore) hmore

theorem Sound.append (hs : Sound f) (hl : reg.lifecycle = (f.lifecycles i).append h)
    (hmild : h.Mild) (hknown : ∀ p, h.target? = some p → p < reg.pipelines.length) :
    Sound (f.put i reg) := by
  refine hs.put ?_ ?_ ?_ hmore <;> rw [hl]
  · exact (hs.rests i).append h
  · intro g hg
    rcases Lifecycle.mem_hooks_append hg with hold | rfl
    · exact hs.mild i g hold
    · exact hmild
  · intro g hg p ht
    rcases Lifecycle.mem_hooks_append hg with hold | rfl
    · exact (hs.known i g hold p ht).trans_le hmore
    · exact hknown p ht

theorem Kept.same (hk : Kept f k key j p) (hl : reg.lifecycle = f.lifecycles i)
    (hlive : reg.live? k key = some p) : Kept (f.put i reg) k key j p :=
  hk.put hlive hmore (hl ▸ hk.sole i) fun heq ↦ by
    subst heq
    exact hl ▸ hk.bound

theorem Kept.append (hk : Kept f k key j p) (hl : reg.lifecycle = (f.lifecycles i).append h)
    (hlive : reg.live? k key = some p) (hother : h.target? ≠ some p) :
    Kept (f.put i reg) k key j p := by
  refine hk.put hlive hmore ?_ ?_ <;> rw [hl]
  · intro g hg ht
    rcases Lifecycle.mem_hooks_append hg with hold | rfl
    · exact hk.sole i g hold ht
    · exact absurd ht hother
  · rintro rfl hcalm
    exact Lifecycle.mem_append_of_mem (hk.bound (Lifecycle.calm_append.mp hcalm)) h

end Frames

theorem lifecycle_engage (f : Fleet) (i : Nat) (reg : Registry) (k : Signal) (key : String)
    (q : Pipeline) (es : List Event) : ((reg.engage k key q).report es).lifecycle =
      ((f.put i reg).lifecycles i).append
        (shutdownHook k key defaultShutdownLimit reg.pipelines.length) := by
  rw [lifecycles_put_self]
  rfl

theorem Sound.provide (hs : Sound (f.put i reg)) (hp : Provision resource c k reg answer reg') :
    Sound (f.put i reg') := by
  rw [← put_put f i reg reg']
  have hl := (lifecycles_put_self f i reg).symm
  cases hp with
  | found | off | noted | failed => exact hs.same le_rfl hl
  | made es =>
    refine hs.append (by simp) (lifecycle_engage f i reg k _ _ es) rfl fun p ht ↦ ?_
    cases ht
    simp

theorem Kept.provide (hk : Kept (f.put i reg) k key j p)
    (hp : Provision resource c k' reg answer reg') : Kept (f.put i reg') k key j p ∧
      (f.put i reg').isClosed p = (f.put i reg).isClosed p := by
  have hlive := hp.live?_mono hk.live
  have hl := (lifecycles_put_self f i reg).symm
  have hbuilt : p < reg.pipelines.length := hk.built
  rw [← put_put f i reg reg']
  cases hp with
  | found | off | noted | failed => exact ⟨hk.same le_rfl hl hlive, rfl⟩
  | made es =>
    refine ⟨hk.append (by simp) (lifecycle_engage f i reg k' _ _ es) hlive ?_, ?_⟩
    · intro ht
      obtain rfl : reg.pipelines.length = p := Option.some_inj.mp ht
      exact absurd hbuilt (lt_irrefl _)
    · simp [isClosed, Telemetry.isClosed, List.getElem?_append_left hbuilt]

theorem Sound.traced (hs : Sound (f.put i reg)) : Sound (f.put i reg.traced) := by
  rw [← put_put f i reg]
  exact hs.same le_rfl (lifecycles_put_self f i reg).symm

theorem Kept.traced (hk : Kept (f.put i reg) k key j p) : Kept (f.put i reg.traced) k key j p := by
  rw [← put_put f i reg]
  exact hk.same le_rfl (lifecycles_put_self f i reg).symm hk.live

theorem Kept.of_made (hs : Sound (f.put i reg)) (hdead : reg.live? k key = none)
    (hp : Provision resource c k' reg answer reg') (hl : reg'.live? k key = some p) :
    c.serviceName = key ∧ Kept (f.put i reg') k key i p ∧ (f.put i reg').isClosed p = false := by
  have hmine : k' = k ∧ c.serviceName = key := by
    by_contra hne
    rw [hp.live?_of_ne hne, hdead] at hl
    cases hl
  obtain ⟨rfl, rfl⟩ := hmine
  rcases answer with e | found
  · cases hp with | failed => cases hdead.symm.trans hl
  obtain rfl : found = some p := hp.live?_eq.symm.trans hl
  cases hp with
  | found hlive => cases hdead.symm.trans hlive
  | @made q es _ hbuilt =>
    have fresh (i' : Nat) (h : Hook (Callback Nat)) (hh : h ∈ ((f.put i reg).lifecycles i').hooks) :
        h.target? ≠ some reg.pipelines.length := by
      intro ht
      exact absurd (hs.known i' h hh _ ht) (lt_irrefl _)
    refine ⟨rfl, ?_, ?_⟩
    · rw [← put_put f i reg]
      refine ⟨hl, by simp, fun i' g hg ht ↦ ?_, fun hcalm ↦ ?_⟩
      · rw [lifecycles_put] at hg
        split at hg
        · next heq =>
          rw [lifecycle_engage f i] at hg
          rcases Lifecycle.mem_hooks_append hg with hold | rfl
          · exact absurd ht (fresh i g hold)
          · exact ⟨heq, rfl⟩
        · exact absurd ht (fresh i' g hg)
      · rw [lifecycles_put_self, lifecycle_engage f i] at hcalm ⊢
        exact Lifecycle.mem_append_self (Lifecycle.calm_append.mp hcalm) rfl
    · simp [isClosed, Telemetry.isClosed, Pipeline.isShutDown_of_made hbuilt]

theorem Sound.call_effect (hs : Sound f) (i : Nat) (verb : Verb) :
    CallEffect (f.timeouts i) (f.lifecycles i) f.registry.pipelines verb
      ((f.view i).call verb).2.lifecycle ((f.view i).call verb).2.pipelines := by
  have hrest : (f.view i).lifecycle.Rests := hs.rests i
  exact Registry.call_effect hrest (hs.mild i) verb

theorem Sound.call (hs : Sound f) (i : Nat) (verb : Verb) : Sound (f.act (i, .call verb)) := by
  have heffect := hs.call_effect i verb
  refine hs.put (heffect.rests (hs.rests i)) ?_ ?_ heffect.length_eq.ge
  · intro h hh
    obtain ⟨g, hg, rfl | rfl⟩ := heffect.mem_hooks hh
    · exact hs.mild i h hg
    · exact rfl
  · intro h hh p ht
    refine lt_of_lt_of_eq ?_ heffect.length_eq.symm
    obtain ⟨g, hg, rfl | rfl⟩ := heffect.mem_hooks hh
    · exact hs.known i h hg p ht
    · exact hs.known i g hg p ht

theorem Kept.call (hs : Sound f) (hk : Kept f k key j p) (i : Nat) (verb : Verb) :
    Kept (f.act (i, .call verb)) k key j p ∧ ((f.act (i, .call verb)).isClosed p = true ↔
      f.isClosed p = true ∨
        i = j ∧ f.Retires j (shutdownHook k key defaultShutdownLimit p) verb) := by
  have heffect := hs.call_effect i verb
  constructor
  · refine hk.put hk.live heffect.length_eq.ge ?_ ?_
    · intro h hh ht
      obtain ⟨g, hg, rfl | rfl⟩ := heffect.mem_hooks hh
      · exact hk.sole i h hg ht
      · obtain ⟨heq, rfl⟩ := hk.sole i g hg ht
        exact ⟨heq, rfl⟩
    · rintro rfl hcalm
      exact heffect.mem_of_calm rfl hk.bound hcalm
  · by_cases heq : i = j
    · subst heq
      refine (heffect.isClosed_iff hk.built rfl (fun g hg ht ↦ (hk.sole i g hg ht).2)
        hk.bound).trans ?_
      simp only [isClosed, Retires, true_and]
    · refine (heffect.isClosed_of_absent hk.built fun g hg ht ↦ ?_).trans ?_
      · exact heq (hk.sole i g hg ht).1
      · simp only [isClosed, heq, false_and, or_false]

theorem Sound.act (hs : Sound f) {e : Nat × Deed} (hplain : e.2.Plain) : Sound (f.act e) := by
  obtain ⟨i, d⟩ := e
  cases d with
  | install resource c =>
    refine Installation.install_induction (P := fun now ↦ Sound (f.put i now)) ?_ ?_ ?_
    · exact hs.same le_rfl rfl
    · exact fun k now hnow ↦ hnow.provide (provide_effect resource c k now)
    · exact fun now hnow ↦ hnow.traced
  | register h =>
    refine hs.append le_rfl rfl hplain.1 fun p ht ↦ ?_
    cases hplain.2.symm.trans ht
  | call verb => exact hs.call i verb

theorem live?_act (e : Nat × Deed) (hl : f.live? k key = some p) :
    (f.act e).live? k key = some p := by
  obtain ⟨i, d⟩ := e
  cases d with
  | install resource c => exact Installation.live?_install resource hl
  | register | call => exact hl

/-- Whatever is done, the provider stays the one of the service. It is shut down just when a call on
its lifecycle stops its hook. -/
theorem Kept.act (hs : Sound f) (hk : Kept f k key j p) {e : Nat × Deed} (hplain : e.2.Plain) :
    Kept (f.act e) k key j p ∧ ((f.act e).isClosed p = true ↔ f.isClosed p = true ∨
      ∃ verb, e = (j, .call verb) ∧
        f.Retires j (shutdownHook k key defaultShutdownLimit p) verb) := by
  obtain ⟨i, d⟩ := e
  cases d with
  | install resource c =>
    have hinstall : Kept (f.put i (Installation.install resource c (f.view i)).2) k key j p ∧
        (f.put i (Installation.install resource c (f.view i)).2).isClosed p = f.isClosed p := by
      refine Installation.install_induction
        (P := fun now ↦ Kept (f.put i now) k key j p ∧ (f.put i now).isClosed p = f.isClosed p)
        ⟨hk.same le_rfl rfl hk.live, rfl⟩ ?_ ?_
      · intro k' now hnow
        obtain ⟨hkept, hsame⟩ := hnow.1.provide (provide_effect resource c k' now)
        exact ⟨hkept, hsame.trans hnow.2⟩
      · exact fun now hnow ↦ ⟨hnow.1.traced, hnow.2⟩
    obtain ⟨hkept, hsame⟩ := hinstall
    have hact : (f.act (i, .install resource c)).isClosed p = f.isClosed p := hsame
    refine ⟨hkept, hact ▸ (or_iff_left ?_).symm⟩
    rintro ⟨verb, he, _⟩
    cases he
  | register h =>
    refine ⟨hk.append le_rfl rfl hk.live ?_, (or_iff_left ?_).symm⟩
    · rw [hplain.2]
      nofun
    · rintro ⟨verb, he, _⟩
      cases he
  | call verb =>
    obtain ⟨hkept, hclosed⟩ := hk.call hs i verb
    refine ⟨hkept, hclosed.trans (or_congr_right ⟨?_, ?_⟩)⟩
    · rintro ⟨rfl, hr⟩
      exact ⟨verb, rfl, hr⟩
    · rintro ⟨verb', he, hr⟩
      cases he
      exact ⟨rfl, hr⟩

def Newly (f : Fleet) (i : Nat) (c : ExporterConfig) (k : Signal) (key : String)
    (reg : Registry) : Prop :=
  ∀ p, reg.live? k key = some p →
    c.serviceName = key ∧ Kept (f.put i reg) k key i p ∧ (f.put i reg).isClosed p = false

-- The lookup that finds nothing makes the provider, and the later ones leave it alone.
theorem Newly.provide (h : Newly f i c k key reg) (hs : Sound (f.put i reg))
    (hp : Provision resource c k' reg answer reg') : Newly f i c k key reg' := by
  intro p hl
  rcases hbefore : reg.live? k key with - | q
  · exact Kept.of_made hs hbefore hp hl
  · obtain rfl : q = p := Option.some_inj.mp ((hp.live?_mono hbefore).symm.trans hl)
    obtain ⟨hkey, hkept, hopen⟩ := h q hbefore
    obtain ⟨hkept', hsame⟩ := hkept.provide hp
    exact ⟨hkey, hkept', hsame.trans hopen⟩

theorem Newly.traced (h : Newly f i c k key reg) : Newly f i c k key reg.traced := by
  intro p hl
  obtain ⟨hkey, hkept, hopen⟩ := h p hl
  exact ⟨hkey, hkept.traced, hopen⟩

theorem Kept.of_act (hs : Sound f) {e : Nat × Deed} (hdead : f.live? k key = none)
    (hl : (f.act e).live? k key = some p) :
    (∃ resource c, e.2 = .install resource c ∧ c.serviceName = key) ∧
      Kept (f.act e) k key e.1 p ∧ (f.act e).isClosed p = false := by
  obtain ⟨i, d⟩ := e
  cases d with
  | register | call => cases hdead.symm.trans hl
  | install resource c =>
    have hinstall : Sound (f.put i (Installation.install resource c (f.view i)).2) ∧
        Newly f i c k key (Installation.install resource c (f.view i)).2 := by
      refine Installation.install_induction
        (P := fun now ↦ Sound (f.put i now) ∧ Newly f i c k key now) ?_ ?_ ?_
      · exact ⟨hs.same le_rfl rfl, fun p hp ↦ by cases hdead.symm.trans hp⟩
      · intro k' now ⟨hsound, hnow⟩
        have hp := provide_effect resource c k' now
        exact ⟨hsound.provide hp, hnow.provide hsound hp⟩
      · exact fun now hnow ↦ ⟨hnow.1.traced, hnow.2.traced⟩
    obtain ⟨hkey, hkept, hopen⟩ := hinstall.2 p hl
    exact ⟨⟨resource, c, rfl, hkey⟩, hkept, hopen⟩

end Steps

section Runs

variable {start f : Fleet} {es : List (Nat × Deed)} {k : Signal} {key : String} {p : Nat}

/-- Nothing is in the caches, and no lifecycle has been used. -/
structure New (start : Fleet) : Prop where
  empty : ∀ k, start.registry.caches.get k = {}
  unused : ∀ i, start.lifecycles i = {}

theorem New.sound (h : New start) : Sound start where
  rests i := by
    rw [h.unused]
    exact .inl ⟨rfl, rfl⟩
  mild i g hg := by
    rw [h.unused] at hg
    cases hg
  known i g hg := by
    rw [h.unused] at hg
    cases hg

theorem New.live?_eq (h : New start) (k : Signal) (key : String) : start.live? k key = none := by
  simp [live?, Registry.live?, h.empty]

theorem Sound.after (hs : Sound f) (hplain : ∀ e ∈ es, e.2.Plain) : Sound (f.after es) := by
  induction es generalizing f with
  | nil => exact hs
  | cons e es ih =>
    rw [List.forall_mem_cons] at hplain
    exact ih (hs.act hplain.1) hplain.2

theorem live?_after (es : List (Nat × Deed)) (hl : f.live? k key = some p) :
    (f.after es).live? k key = some p := by
  induction es generalizing f with
  | nil => exact hl
  | cons e es ih => exact ih (live?_act e hl)

theorem New.origin (hnew : New start) (hplain : ∀ e ∈ es, e.2.Plain)
    (hl : (start.after es).live? k key = some p) :
    ∃ first j resource c later, es = first ++ (j, .install resource c) :: later ∧
      c.serviceName = key ∧ (start.after first).live? k key = none ∧
      (start.after (first ++ [(j, .install resource c)])).live? k key = some p ∧
      Kept (start.after es) k key j p ∧
      ((start.after es).isClosed p = true ↔
        (start.after (first ++ [(j, .install resource c)])).Retired later j
          (shutdownHook k key defaultShutdownLimit p)) := by
  induction es using List.reverseRecOn with
  | nil => cases (hnew.live?_eq k key).symm.trans hl
  | append_singleton es e ih =>
    rw [List.forall_mem_append, List.forall_mem_singleton] at hplain
    have hsound : Sound (start.after es) := hnew.sound.after hplain.1
    rw [after_concat] at hl ⊢
    rcases hbefore : (start.after es).live? k key with - | q
    · -- The provider is a new one.
      obtain ⟨⟨resource, c, he, hkey⟩, hkept, hopen⟩ := Kept.of_act hsound hbefore hl
      obtain ⟨j, d⟩ := e
      obtain rfl : d = .install resource c := he
      refine ⟨es, j, resource, c, [], rfl, hkey, hbefore, ?_, hkept, ?_⟩
      · rwa [after_concat]
      · rw [hopen]
        refine ⟨nofun, ?_⟩
        rintro ⟨before, verb, later, he, _⟩
        cases before <;> cases he
    · obtain rfl : q = p := Option.some_inj.mp ((live?_act e hbefore).symm.trans hl)
      obtain ⟨first, j, resource, c, later, he, hkey, hdead, hmade, hkept, hclosed⟩ :=
        ih hplain.1 hbefore
      obtain ⟨hkept', hclosed'⟩ := hkept.act hsound hplain.2
      have hsince : (start.after (first ++ [(j, .install resource c)])).after later =
          start.after es := by
        rw [← after_append, he, List.append_assoc, List.singleton_append]
      refine ⟨first, j, resource, c, later ++ [e], by simp [he], hkey, hdead, hmade, hkept', ?_⟩
      rw [hclosed', hclosed, Retired.concat_iff, hsince]

/-- Telemetry is set up for services with any lifecycles, which are started and stopped, and which
hold other hooks that shut no provider down. Whatever provider an installation hands out for a
signal,
* it came with the installation for the service that found no provider in the cache and left one
  there;
* it has been shut down just when since then a call on the lifecycle of that installation has
  stopped its hook: a stop call that found the lifecycle running, or a start call that failed at a
  later hook;
* it is what every later installation for the service hands out, with whichever lifecycle. -/
theorem New.handed_out (hnew : New start) (hplain : ∀ e ∈ es, e.2.Plain) {i : Nat}
    {resource : Resource} {c : ExporterConfig} {found : Installation}
    (h : (Installation.install resource c ((start.after es).view i)).1 = .ok found)
    (hp : found.provider k = some p) :
    (∃ first j resource' c' later,
      es ++ [(i, .install resource c)] = first ++ (j, .install resource' c') :: later ∧
      c'.serviceName = c.serviceName ∧ (start.after first).live? k c.serviceName = none ∧
      (start.after (first ++ [(j, .install resource' c')])).live? k c.serviceName = some p ∧
      ((start.after (es ++ [(i, .install resource c)])).isClosed p = true ↔
        (start.after (first ++ [(j, .install resource' c')])).Retired later j
          (shutdownHook k c.serviceName defaultShutdownLimit p))) ∧
    ∀ later i' resource' c' found', c'.serviceName = c.serviceName →
      (Installation.install resource' c'
        ((start.after (es ++ (i, .install resource c) :: later)).view i')).1 = .ok found' →
      found'.provider k = some p := by
  have hl : (start.after (es ++ [(i, .install resource c)])).live? k c.serviceName = some p := by
    rw [after_concat, ← hp, Installation.provider_of_install h]
    rfl
  constructor
  · have hplain' : ∀ e ∈ es ++ [(i, .install resource c)], e.2.Plain := by
      rw [List.forall_mem_append, List.forall_mem_singleton]
      exact ⟨hplain, trivial⟩
    obtain ⟨first, j, resource', c', later, he, hkey, hdead, hmade, _, hclosed⟩ :=
      hnew.origin hplain' hl
    exact ⟨first, j, resource', c', later, he, hkey, hdead, hmade, hclosed⟩
  · intro later i' resource' c' found' hkey h'
    have hl' : (start.after (es ++ (i, .install resource c) :: later)).live? k c.serviceName =
        some p := by
      rw [← List.singleton_append, ← List.append_assoc, after_append]
      exact live?_after later hl
    rw [Installation.provider_of_install h', hkey]
    exact Installation.live?_install resource' (hkey ▸ hl')

theorem Sound.running_of_bare (hs : Sound f) {i : Nat} (hidle : (f.lifecycles i).state = .idle)
    (hbare : ∀ h ∈ (f.lifecycles i).hooks, h.onStart = none) :
    ((f.act (i, .call .start)).lifecycles i).state = .running := by
  have heffect := hs.call_effect i .start
  have hstate : ((f.act (i, .call .start)).lifecycles i).state =
      ((f.view i).call .start).2.lifecycle.state :=
    congrArg Lifecycle.state (lifecycles_put_self f i _)
  rw [hstate]
  generalize ((f.view i).call .start).2.lifecycle = l at heffect ⊢
  generalize ((f.view i).call .start).2.pipelines = ps at heffect
  cases heffect with
  | refused hlate => exact absurd hidle hlate
  | up => rfl
  | @fell _ _ h _ hsplit _ hdown =>
    have hnone := hbare h (by simp [hsplit])
    simp [Hook.comesUp, hnone] at hdown

def vacant : Fleet := ⟨Registry.fresh, fun _ ↦ {}, fun _ ↦ {}⟩

theorem new_vacant : New vacant where
  empty k := by cases k <;> rfl
  unused _ := rfl

def opening : List (Nat × Deed) := [(0, .install Registry.ordersResource (padded 0))]

def passage : List (Nat × Deed) := [(0, .call .start), (0, .call .stop)]

theorem plain_passage : ∀ e ∈ opening ++ passage, e.2.Plain := by
  simp [opening, passage, Deed.Plain]

theorem after_opening : (∀ k, (vacant.after opening).live? k "orders" = some k.rank) ∧
    ((vacant.after opening).lifecycles 0).state = .idle ∧
    ∀ h ∈ ((vacant.after opening).lifecycles 0).hooks, h.onStart = none := by
  have hdead (k : Signal) : (vacant.view 0).live? k (padded 0).serviceName = none := by
    cases k <;> rfl
  have hmade (k : Signal) : ∃ q, Pipeline.made (vacant.view 0).ids Registry.ordersResource
      (padded 0) k = .ok (some q) := by
    refine ⟨_, (made_padded _ _ 0 k).trans (if_neg ?_)⟩
    cases k <;> decide
  choose q hq using hmade
  obtain ⟨es, he⟩ := Installation.install_of_made hdead hq
  have hafter : vacant.after opening = vacant.put 0
      (((vacant.view 0).engageAll "orders" q).traced.report es) :=
    congrArg (vacant.put 0) (congrArg Prod.snd he)
  rw [hafter, lifecycles_put_self]
  refine ⟨fun k ↦ ?_, rfl, fun h hh ↦ ?_⟩
  · refine (Registry.live?_engageAll (vacant.view 0) k "orders" "orders" q).trans ?_
    simp [view, vacant, Registry.fresh]
  · have hhooks : (((vacant.view 0).engageAll "orders" q).traced.report es).lifecycle.hooks =
        Signal.all.map fun k ↦ shutdownHook k "orders" defaultShutdownLimit k.rank := rfl
    rw [hhooks] at hh
    obtain ⟨k, _, rfl⟩ := List.mem_map.mp hh
    rfl

def again (i : Nat) : Nat × Deed := (i, .install Registry.ordersResource (padded 0))

theorem install_again (i : Nat) : ∃ found, (Installation.install Registry.ordersResource (padded 0)
    ((vacant.after (opening ++ passage)).view i)).1 = .ok found ∧
      ∀ k, found.provider k = some k.rank := by
  have hlive (k : Signal) : ((vacant.after (opening ++ passage)).view i).live? k
      (padded 0).serviceName = some k.rank := by
    have hl := live?_after passage (after_opening.1 k)
    rwa [← after_append] at hl
  rw [Installation.install_of_live hlive]
  exact ⟨_, rfl, fun k ↦ Installation.provider_of _ _ _ k⟩

theorem passage_handed_out : ∃ found, (Installation.install Registry.ordersResource (padded 0)
      ((vacant.after (opening ++ passage)).view 1)).1 = .ok found ∧
    ∃ first j resource c later,
      opening ++ passage ++ [again 1] = first ++ (j, .install resource c) :: later ∧
      (vacant.after first).live? .traces "orders" = none ∧
      ((vacant.after (opening ++ passage ++ [again 1])).isClosed 0 = true ↔
        (vacant.after (first ++ [(j, .install resource c)])).Retired later j
          (shutdownHook .traces "orders" defaultShutdownLimit 0)) := by
  obtain ⟨found, hfound, hprovider⟩ := install_again 1
  obtain ⟨⟨first, j, resource, c, later, he, _, hdead, _, hclosed⟩, _⟩ :=
    new_vacant.handed_out plain_passage hfound (hprovider .traces)
  exact ⟨found, hfound, first, j, resource, c, later, he, hdead, hclosed⟩

/-- A service that is set up again after its lifecycle has been stopped gets providers that have been
shut down, with whichever lifecycle. -/
theorem closed_again : New vacant ∧ (∀ e ∈ opening ++ passage, e.2.Plain) ∧
    ∀ i, ∃ found, (Installation.install Registry.ordersResource (padded 0)
        ((vacant.after (opening ++ passage)).view i)).1 = .ok found ∧
      ∀ k, ∃ p, found.provider k = some p ∧
        (vacant.after (opening ++ passage ++ [again i])).isClosed p = true := by
  refine ⟨new_vacant, plain_passage, fun i ↦ ?_⟩
  obtain ⟨found, hfound, hprovider⟩ := install_again i
  refine ⟨found, hfound, fun k ↦ ⟨k.rank, hprovider k, ?_⟩⟩
  obtain ⟨hlive, hidle, hbare⟩ := after_opening
  have hopened : Sound (vacant.after opening) :=
    new_vacant.sound.after fun e he ↦ plain_passage e (List.mem_append_left _ he)
  have hstarted := hopened.call 0 .start
  have hstopped := hstarted.call 0 .stop
  obtain ⟨_, hkept, _⟩ := Kept.of_act new_vacant.sound (new_vacant.live?_eq k "orders")
    (e := again 0) (hlive k)
  obtain ⟨hkept₁, _⟩ := hkept.call hopened 0 .start
  obtain ⟨hkept₂, hclosed⟩ := hkept₁.call hstarted 0 .stop
  obtain ⟨_, hlast⟩ := hkept₂.act hstopped (e := again i) trivial
  exact hlast.mpr (.inl (hclosed.mpr (.inr ⟨rfl, hopened.running_of_bare hidle hbare⟩)))

end Runs

end Fleet

end Telemetry
