import Mathlib
import Telemetry.Proofs.Service.Calls

namespace Telemetry

variable {ε α : Type} {text : ε → String} {ids : IdSource} {sampler : Sampler}

theorem SpanContext.isValid_iff {s : SpanContext} :
    s.isValid ↔ s.traceId ≠ 0 ∧ s.spanId ≠ 0 := by
  simp [isValid]

namespace Started

variable {s : Started ε α}

@[simp]
theorem blank_context : s.blank.context = s.context := rfl

@[simp]
theorem next_spanId {n : Nat} {plan : Plan ε α} {given : Option SpanContext} :
    (next ids sampler n plan given).context.spanId = ids.span n := rfl

theorem next_isValid {n m : Nat} (fresh : ids.Fresh m) (hn : n < m) (plan : Plan ε α)
    (given : Option SpanContext) : (next ids sampler n plan given).context.isValid := by
  refine SpanContext.isValid_iff.mpr ⟨?_, fresh.span_ne_zero n hn⟩
  show ((given.filter (·.isValid)).map (·.traceId)).getD (ids.trace n) ≠ 0
  cases hvalid : given.filter (·.isValid) with
  | none => exact fresh.trace_ne_zero n hn
  | some parent =>
    have hparent := (Option.mem_filter_iff.mp hvalid).2
    exact (SpanContext.isValid_iff.mp hparent).1

theorem next_sampled {n : Nat} {plan : Plan ε α} {given : Option SpanContext} :
    (next ids sampler n plan given).context.sampled =
      sampler.samples given (next ids sampler n plan given).context.traceId := by
  simp only [next, SpanContext.sampled]
  split <;> simp_all

def blanks (opened : List (Started ε α)) : List SpanRecord :=
  (opened.filter (·.context.sampled)).map blank

def records (text : ε → String) (ended : List (Started ε α)) : List SpanRecord :=
  (ended.filter (·.context.sampled)).map (record text)

theorem blanks_append (a b : List (Started ε α)) : blanks (a ++ b) = blanks a ++ blanks b := by
  simp [blanks]

theorem records_append (a b : List (Started ε α)) :
    records text (a ++ b) = records text a ++ records text b := by
  simp [records]

theorem filter_blanks (q : SpanContext → Bool) (opened : List (Started ε α)) :
    (blanks opened).filter (fun r ↦ q r.context) = blanks (opened.filter fun s ↦ q s.context) := by
  simp only [blanks, List.filter_map, List.filter_filter, Bool.and_comm, Function.comp_def,
    blank_context]

theorem eq_blanks_singleton {recording : List SpanRecord} (h : recording.Perm (blanks [s])) :
    recording = blanks [s] := by
  unfold blanks at h ⊢
  cases hsampled : s.context.sampled <;> simp only [List.filter_singleton, hsampled] at h ⊢
  · exact h.eq_nil
  · exact h.eq_singleton

end Started

namespace Ending

def note (text : ε → String) : Ending ε α → SpanRecord → SpanRecord
  | returned (.error e), r =>
    { r with
      status := .error (text e)
      events := r.events ++
        [{ name := "exception", attributes := [("exception.message", text e)] }] }
  | returned (.ok _), r => r
  | abandoned, r => r

end Ending

theorem Started.record_eq {s : Started ε α} :
    s.record text = s.plan.ending.note text s.blank := by
  unfold Started.record
  rcases s.plan.ending with (e | a) | _ <;> rfl

@[simp]
theorem Ending.note_context {ending : Ending ε α} {r : SpanRecord} :
    (ending.note text r).context = r.context := by
  rcases ending with (e | a) | _ <;> rfl

theorem Service.conclude_eq {span : SpanContext} {ending : Ending ε α} {t : Tracer}
    (live : t.isShutDown = false) :
    Service.conclude text span ending t =
      { t with
        recording := t.recording.filter (·.context.spanId != span.spanId)
        finished := t.finished ++
          (t.recording.filter (·.context.spanId == span.spanId)).map (ending.note text) } := by
  have hnote : Service.conclude text span ending t =
      (t.modifyRecord span (ending.note text)).finish span := by
    rcases ending with (e | a) | _
    · rfl
    all_goals simp [conclude, SpanGuard.finish, SpanGuard.drop, Tracer.modifyRecord, Ending.note]
  -- A note does not change the id, so it stands on the same records before and after.
  have hid : ∀ r : SpanRecord,
      (if r.context.spanId = span.spanId then ending.note text r else r).context = r.context := by
    intro r
    split <;> simp
  rw [hnote]
  simp only [Tracer.modifyRecord, Tracer.finish, live, List.partition_eq_filter_filter,
    List.filter_map, Function.comp_def, hid]
  congr 1
  · refine (List.map_congr_left fun r hr ↦ if_neg ?_).trans (List.map_id _)
    simpa using List.of_mem_filter hr
  · simp only [Bool.false_eq_true, if_false, List.append_cancel_left_eq]
    refine List.map_congr_left fun r hr ↦ if_pos ?_
    simpa using List.of_mem_filter hr

theorem Service.trace_eq {t : Tracer} (live : t.isShutDown = false) (plan : Plan ε α)
    (given : Option SpanContext) :
    plan.service.trace given plan.operation t =
      ((Started.next t.ids t.sampler t.count plan given).context,
        { t with
          count := t.count + 1
          recording :=
            t.recording ++ Started.blanks [Started.next t.ids t.sampler t.count plan given] }) := by
  set s := Started.next t.ids t.sampler t.count plan given with hs
  have hstart : plan.service.trace given plan.operation t =
      if t.sampler.samples given s.context.traceId then
        (s.context, { t with count := t.count + 1, recording := t.recording ++ [s.blank] })
      else (s.context, { t with count := t.count + 1 }) := by
    simp only [trace, Tracer.start, live]
    rfl
  rw [hstart, ← Started.next_sampled, ← hs]
  cases hsampled : s.context.sampled <;> simp [Started.blanks, hsampled]

/-- What the tracer and the account of the spans have to do with each other: those that have ended,
those that are open, and all that have been started. -/
structure Sound (text : ε → String) (ids : IdSource) (sampler : Sampler)
    (here : Option SpanContext) (ended opened started : List (Started ε α)) (t : Tracer) :
    Prop where
  live : t.isShutDown = false
  ids_eq : t.ids = ids
  sampler_eq : t.sampler = sampler
  count_eq : t.count = started.length
  current_eq : t.current = here
  recording : t.recording.Perm (Started.blanks opened)
  finished : t.finished = Started.records text ended
  perm : (ended ++ opened).Perm started

namespace Sound

open Started

variable {here : Option SpanContext} {ended opened started : List (Started ε α)} {t : Tracer}

theorem of_perm {opened' : List (Started ε α)}
    (h : Sound text ids sampler here ended opened started t) (hopened : opened.Perm opened') :
    Sound text ids sampler here ended opened' started t where
  __ := h
  recording := h.recording.trans ((hopened.filter _).map _)
  perm := (hopened.symm.append_left ended).trans h.perm

theorem setCurrent (h : Sound text ids sampler here ended opened started t)
    (context : Option SpanContext) :
    Sound text ids sampler context ended opened started { t with current := context } where
  __ := h
  current_eq := rfl

theorem trace (h : Sound text ids sampler here ended opened started t) (plan : Plan ε α)
    (given : Option SpanContext) :
    let s := next ids sampler started.length plan given
    ∃ t', plan.service.trace given plan.operation t = (s.context, t') ∧
      Sound text ids sampler here ended (s :: opened) (started ++ [s]) t' := by
  intro s
  have htrace := Service.trace_eq h.live plan given
  rw [h.ids_eq, h.sampler_eq, h.count_eq] at htrace
  refine ⟨_, htrace, ?_⟩
  constructor
  case live => exact h.live
  case ids_eq => rfl
  case sampler_eq => rfl
  case count_eq => simp
  case current_eq => exact h.current_eq
  case finished => exact h.finished
  case recording =>
    show (t.recording ++ blanks [s]).Perm (blanks ([s] ++ opened))
    rw [blanks_append]
    exact (h.recording.append_right _).trans List.perm_append_comm
  case perm =>
    have hlast := h.perm.append_right [s]
    rw [List.append_assoc] at hlast
    exact (List.perm_append_comm.append_left ended).trans hlast

theorem spanId_ne {s : Started ε α}
    (h : Sound text ids sampler here ended (s :: opened) started t)
    (nodup : (started.map (·.context.spanId)).Nodup) :
    ∀ o ∈ opened, o.context.spanId ≠ s.context.spanId := by
  intro o ho heq
  have hall : ((ended ++ s :: opened).map (·.context.spanId)).Nodup :=
    (h.perm.map _).nodup_iff.mpr nodup
  have hopened : ((s :: opened).map (·.context.spanId)).Nodup :=
    ((List.sublist_append_right ended _).map _).nodup hall
  apply (List.nodup_cons.mp hopened).1
  exact List.mem_map.mpr ⟨o, ho, heq⟩

theorem conclude {s : Started ε α}
    (h : Sound text ids sampler here ended (s :: opened) started t)
    (nodup : (started.map (·.context.spanId)).Nodup) :
    Sound text ids sampler here (ended ++ [s]) opened started
      (Service.conclude text s.context s.plan.ending t) := by
  have hne := h.spanId_ne nodup
  have hself : (s :: opened).filter (·.context.spanId == s.context.spanId) = [s] := by
    simpa using hne
  have hrest : (s :: opened).filter (·.context.spanId != s.context.spanId) = opened := by
    simpa using hne
  have hown : t.recording.filter (·.context.spanId == s.context.spanId) = blanks [s] := by
    apply eq_blanks_singleton
    rw [← hself, ← filter_blanks (·.spanId == s.context.spanId)]
    exact h.recording.filter _
  have hothers : (t.recording.filter (·.context.spanId != s.context.spanId)).Perm
      (blanks opened) := by
    rw [← congrArg blanks hrest, ← filter_blanks (·.spanId != s.context.spanId)]
    exact h.recording.filter _
  have hrecord : (blanks [s]).map (s.plan.ending.note text) = records text [s] := by
    unfold blanks records
    rw [List.map_map]
    apply List.map_congr_left
    intro o ho
    rw [List.mem_singleton.mp (List.mem_of_mem_filter ho), record_eq]
    rfl
  rw [Service.conclude_eq h.live]
  constructor
  case live => exact h.live
  case ids_eq => exact h.ids_eq
  case sampler_eq => exact h.sampler_eq
  case count_eq => exact h.count_eq
  case current_eq => exact h.current_eq
  case recording => exact hothers
  case finished => simp only [hown, hrecord, h.finished, records_append]
  case perm =>
    rw [List.append_assoc]
    exact h.perm

end Sound

namespace Started

def Numbered (ids : IdSource) (sampler : Sampler) (started : List (Started ε α)) : Prop :=
  ∀ n s, started[n]? = some s → ∃ plan given, s = next ids sampler n plan given

namespace Numbered

variable {started : List (Started ε α)}

theorem nil : Numbered ids sampler ([] : List (Started ε α)) := by
  intro n s h
  cases h

theorem concat (h : Numbered ids sampler started) (plan : Plan ε α) (given : Option SpanContext) :
    Numbered ids sampler (started ++ [next ids sampler started.length plan given]) := by
  intro n s hs
  rw [List.getElem?_append] at hs
  split at hs
  · exact h n s hs
  · obtain ⟨hn, hget⟩ := List.getElem?_eq_some_iff.mp hs
    obtain rfl : n = started.length := by
      simp only [List.length_singleton] at hn
      omega
    rw [List.getElem_singleton] at hget
    exact ⟨plan, given, hget.symm⟩

theorem isValid (h : Numbered ids sampler started) (fresh : ids.Fresh started.length) :
    ∀ s ∈ started, s.context.isValid := by
  intro s hs
  obtain ⟨n, hn, hget⟩ := List.getElem_of_mem hs
  obtain ⟨plan, given, rfl⟩ := h n s (List.getElem?_eq_some_iff.mpr ⟨hn, hget⟩)
  exact next_isValid fresh hn plan given

theorem nodup (h : Numbered ids sampler started) (fresh : ids.Fresh started.length) :
    (started.map (·.context.spanId)).Nodup := by
  have hids : started.map (·.context.spanId) = (List.range started.length).map ids.span := by
    apply List.ext_getElem (by simp)
    intro n hn _
    rw [List.getElem_map, List.getElem_map, List.getElem_range]
    obtain ⟨plan, given, hs⟩ := h n _ (List.getElem?_eq_getElem (by simpa using hn))
    rw [hs, next_spanId]
  rw [hids]
  refine List.Nodup.map_on ?_ List.nodup_range
  intro i hi j hj heq
  exact fresh.span_ne i (List.mem_range.mp hi) j (List.mem_range.mp hj) heq

end Numbered

end Started

namespace Calls

open Started

variable {t : Tracer} {p : Progress ε α}

def after (text : ε → String) (calls : Calls ε α) (t : Tracer) (p : Progress ε α) :
    Tracer × Progress ε α :=
  let ((_, t), p) := (run text calls).run t p
  (t, p)

theorem after_trace (g : Given) (plan : Plan ε α) (rest : Calls ε α) :
    after text (trace g plan rest) t p =
      let parent := g.context t.current p.started
      let (span, t) := plan.service.trace parent plan.operation t
      after text rest t ((p.start ⟨plan, parent, span⟩).hold ⟨plan, parent, span⟩) := rfl

theorem after_conclude (place : Nat) (rest : Calls ε α) :
    after text (conclude place rest) t p =
      after text rest
        (p.guards[place]?.elim t fun s ↦ Service.conclude text s.context s.plan.ending t)
        (p.release place) := rfl

theorem after_poll (g : Given) (nested rest : Calls ε α) :
    after text (poll g nested rest) t p =
      let (t₁, p₁) :=
        after text nested { t with current := g.context t.current p.started } p
      after text rest { t₁ with current := t.current } p₁ := rfl

theorem after_within (isFuture : Bool) (g : Given) (plan : Plan ε α) (nested rest : Calls ε α) :
    after text (within isFuture g plan nested rest) t p =
      let parent := g.context t.current p.started
      let (span, t₁) := plan.service.trace parent plan.operation t
      let (t₂, p₂) :=
        after text nested { t₁ with current := if isFuture then some span else t₁.current }
          (p.start ⟨plan, parent, span⟩)
      let t₃ := { t₂ with current := if isFuture then t₁.current else t₂.current }
      after text rest (Service.conclude text span plan.ending t₃) (p₂.answer plan.ending) := by
  cases isFuture <;> rfl

theorem after_within_eq {isFuture : Bool} {g : Given} {plan : Plan ε α} {nested rest : Calls ε α}
    {span : SpanContext} {t₁ t₂ : Tracer} {p₂ : Progress ε α}
    (htrace : plan.service.trace (g.context t.current p.started) plan.operation t = (span, t₁))
    (hnested : after text nested
      { t₁ with current := if isFuture then some span else t₁.current }
      (p.start ⟨plan, g.context t.current p.started, span⟩) = (t₂, p₂))
    (hcurrent : t₂.current = if isFuture then some span else t₁.current) :
    after text (within isFuture g plan nested rest) t p =
      after text rest
        (Service.conclude text span plan.ending { t₂ with current := t₁.current })
        (p₂.answer plan.ending) := by
  simp only [after_within, htrace, hnested]
  cases isFuture
  · simp only [Bool.false_eq_true, if_false] at hcurrent ⊢
    rw [hcurrent]
  · rfl

theorem prefix_spans (ids : IdSource) (sampler : Sampler) (calls : Calls ε α)
    (here : Option SpanContext)
    (before : List (Started ε α)) : before <+: calls.spans ids sampler here before := by
  induction calls generalizing here before with
  | done => exact List.prefix_rfl
  | trace g plan rest ih => exact (List.prefix_append _ _).trans (ih _ _)
  | conclude place rest ih => exact ih _ _
  | poll g nested rest ihn ih => exact (ihn _ _).trans (ih _ _)
  | within isFuture g plan nested rest ihn ih =>
    exact ((List.prefix_append _ _).trans (ihn _ _)).trans (ih _ _)

theorem length_spans (calls : Calls ε α) (here : Option SpanContext)
    (before : List (Started ε α)) :
    (calls.spans ids sampler here before).length = before.length + calls.size := by
  induction calls generalizing here before with
  | done => rfl
  | trace g plan rest ih =>
    simp only [spans, size, ih, List.length_append, List.length_singleton]
    omega
  | conclude place rest ih => exact ih _ _
  | poll g nested rest ihn ih =>
    simp only [spans, size, ih, ihn]
    omega
  | within isFuture g plan nested rest ihn ih =>
    simp only [spans, size, ih, ihn, List.length_append, List.length_singleton]
    omega

theorem numbered_spans (calls : Calls ε α) (here : Option SpanContext)
    {before : List (Started ε α)} (h : Numbered ids sampler before) :
    Numbered ids sampler (calls.spans ids sampler here before) := by
  induction calls generalizing here before with
  | done => exact h
  | trace g plan rest ih => exact ih _ (h.concat _ _)
  | conclude place rest ih => exact ih _ h
  | poll g nested rest ihn ih => exact ih _ (ihn _ h)
  | within isFuture g plan nested rest ihn ih => exact ih _ (ihn _ (h.concat _ _))

theorem answers_after (text : ε → String) (calls : Calls ε α) (t : Tracer) (p : Progress ε α) :
    (after text calls t p).2.answers = p.answers ++ calls.answers := by
  induction calls generalizing t p with
  | done => exact (List.append_nil _).symm
  | trace g plan rest ih => exact ih _ _
  | conclude place rest ih => exact ih _ _
  | poll g nested rest ihn ih =>
    rw [after_poll]
    simp [ih, ihn, answers]
  | within isFuture g plan nested rest ihn ih =>
    rw [after_within]
    simp [ih, ihn, answers, Progress.answer, Progress.start]

theorem guards_after (text : ε → String) {calls : Calls ε α} (h : calls.isNested) (t : Tracer)
    (p : Progress ε α) :
    (after text calls t p).2.guards = p.guards := by
  induction calls generalizing t p with
  | done => rfl
  | within isFuture g plan nested rest ihn ih =>
    obtain ⟨hnested, hrest⟩ := Bool.and_eq_true_iff.mp h
    rw [after_within]
    exact (ih hrest _ _).trans (ihn hnested _ _)
  | trace | conclude | poll => cases h

/-- A run of the calls keeps the account, whatever is open around it. Those of nested closures end
their spans in post-order; the numbers hold for the spans of a longer run as well. -/
def Keeps (text : ε → String) (ids : IdSource) (sampler : Sampler) (calls : Calls ε α) : Prop :=
  ∀ t p here ended outer, Sound text ids sampler here ended (p.guards ++ outer) p.started t →
    ((calls.spans ids sampler here p.started).map (·.context.spanId)).Nodup →
    ∃ t' p' new, after text calls t p = (t', p') ∧
      p'.started = calls.spans ids sampler here p.started ∧
      Sound text ids sampler here (ended ++ new) (p'.guards ++ outer) p'.started t' ∧
      (calls.isNested → ∀ all, p'.started <+: all →
        new = (calls.ends p.started.length).filterMap (all[·]?))

variable {nested rest : Calls ε α}

theorem keeps_done : Keeps text ids sampler (done : Calls ε α) := by
  intro t p here ended outer h _
  refine ⟨t, p, [], rfl, rfl, ?_, fun _ _ _ ↦ rfl⟩
  rw [List.append_nil]
  exact h

theorem keeps_trace (hrest : Keeps text ids sampler rest) (g : Given) (plan : Plan ε α) :
    Keeps text ids sampler (trace g plan rest) := by
  intro t p here ended outer h nodup
  obtain ⟨t₁, htrace, hsound⟩ := h.trace plan (g.context here p.started)
  set s := next ids sampler p.started.length plan (g.context here p.started)
  have hguards : (s :: (p.guards ++ outer)).Perm (((p.start s).hold s).guards ++ outer) := by
    show (s :: (p.guards ++ outer)).Perm (p.guards ++ [s] ++ outer)
    rw [List.append_assoc]
    exact List.perm_middle.symm
  obtain ⟨t', p', new, hafter, hstarted, hsound', -⟩ :=
    hrest _ _ _ _ _ (hsound.of_perm hguards) nodup
  refine ⟨t', p', new, ?_, hstarted, hsound', nofun⟩
  simp only [after_trace, h.current_eq, htrace]
  exact hafter

theorem keeps_conclude (hrest : Keeps text ids sampler rest) (place : Nat) :
    Keeps text ids sampler (conclude place rest) := by
  intro t p here ended outer h nodup
  rw [after_conclude]
  cases hget : p.guards[place]? with
  | none =>
    rw [Progress.release_of_none hget]
    obtain ⟨t', p', new, hafter, hstarted, hsound, -⟩ := hrest _ _ _ _ _ h nodup
    exact ⟨t', p', new, hafter, hstarted, hsound, nofun⟩
  | some s =>
    have hguards : (p.guards ++ outer).Perm (s :: ((p.release place).guards ++ outer)) := by
      obtain ⟨hplace, rfl⟩ := List.getElem?_eq_some_iff.mp hget
      exact (List.getElem_cons_eraseIdx_perm hplace).symm.append_right outer
    have hpre := prefix_spans ids sampler rest here p.started
    have hconclude := (h.of_perm hguards).conclude ((hpre.sublist.map _).nodup nodup)
    obtain ⟨t', p', new, hafter, hstarted, hsound, -⟩ := hrest _ _ _ _ _ hconclude nodup
    rw [List.append_assoc] at hsound
    exact ⟨t', p', s :: new, hafter, hstarted, hsound, nofun⟩

theorem keeps_poll (hnested : Keeps text ids sampler nested) (hrest : Keeps text ids sampler rest)
    (g : Given) : Keeps text ids sampler (poll g nested rest) := by
  intro t p here ended outer h nodup
  have hpre := prefix_spans ids sampler rest here
    (nested.spans ids sampler (g.context here p.started) p.started)
  obtain ⟨t₁, p₁, new₁, hafter₁, hstarted₁, hsound₁, -⟩ :=
    hnested _ _ _ _ _ (h.setCurrent (g.context here p.started))
      ((hpre.sublist.map _).nodup nodup)
  obtain ⟨t', p', new, hafter, hstarted, hsound, -⟩ :=
    hrest _ _ _ _ _ (hsound₁.setCurrent here) (by rw [hstarted₁]; exact nodup)
  rw [hstarted₁] at hstarted
  rw [List.append_assoc] at hsound
  refine ⟨t', p', new₁ ++ new, ?_, hstarted, hsound, nofun⟩
  rw [after_poll, h.current_eq, hafter₁]
  exact hafter

theorem keeps_within (hnested : Keeps text ids sampler nested)
    (hrest : Keeps text ids sampler rest) (isFuture : Bool) (g : Given) (plan : Plan ε α) :
    Keeps text ids sampler (within isFuture g plan nested rest) := by
  intro t p here ended outer h nodup
  obtain rfl := h.current_eq
  obtain ⟨t₁, htrace, hsound⟩ := h.trace plan (g.context t.current p.started)
  have hcurrent := hsound.current_eq
  set s := next ids sampler p.started.length plan (g.context t.current p.started)
  set inner := if isFuture then some s.context else t.current with hinner
  have hpre₂ := prefix_spans ids sampler nested inner (p.started ++ [s])
  have hpre := prefix_spans ids sampler rest t.current
    (nested.spans ids sampler inner (p.started ++ [s]))
  have hnodup₂ := (hpre.sublist.map (·.context.spanId)).nodup nodup
  -- The span is open around the closure, and concluded when the guards of the closure may be held.
  have hopen : Sound text ids sampler inner ended ((p.start s).guards ++ s :: outer)
      (p.start s).started { t₁ with current := inner } :=
    (hsound.setCurrent inner).of_perm List.perm_middle.symm
  obtain ⟨t₂, p₂, new₂, hafter₂, hstarted₂, hsound₂, horder₂⟩ := hnested _ _ _ _ _ hopen hnodup₂
  change p₂.started = nested.spans ids sampler inner (p.started ++ [s]) at hstarted₂
  rw [← hstarted₂] at hpre₂ hpre hnodup₂
  have hconclude : Sound text ids sampler t.current (ended ++ new₂ ++ [s])
      ((p₂.answer plan.ending).guards ++ outer) (p₂.answer plan.ending).started
      (Service.conclude text s.context plan.ending { t₂ with current := t.current }) :=
    ((hsound₂.setCurrent t.current).of_perm List.perm_middle).conclude hnodup₂
  have hspans : (within isFuture g plan nested rest).spans ids sampler t.current p.started =
      rest.spans ids sampler t.current p₂.started := by
    rw [hstarted₂]
    rfl
  rw [hspans] at nodup ⊢
  obtain ⟨t', p', new, hafter, hstarted, hsound', horder⟩ := hrest _ _ _ _ _ hconclude nodup
  refine ⟨t', p', new₂ ++ s :: new, ?_, hstarted, by simpa using hsound', ?_⟩
  · rw [← hcurrent] at hinner
    have hafter₂' : after text nested
        { t₁ with current := if isFuture then some s.context else t₁.current } (p.start s) =
          (t₂, p₂) := by
      rw [← hinner]
      exact hafter₂
    rw [after_within_eq htrace hafter₂' (hsound₂.current_eq.trans hinner), hcurrent]
    exact hafter
  · intro hcalls all hall
    obtain ⟨hn, hr⟩ := Bool.and_eq_true_iff.mp hcalls
    have hall₂ : p₂.started <+: all := hpre.trans (hstarted ▸ hall)
    have hs : all[p.started.length]? = some s := by
      obtain ⟨later, rfl⟩ := hpre₂.trans hall₂
      simp
    have hlength : p₂.started.length = p.started.length + 1 + nested.size := by
      rw [hstarted₂, length_spans, List.length_append, List.length_singleton]
    rw [ends, List.filterMap_append, List.filterMap_cons_some hs, horder₂ hn all hall₂,
      horder hr all hall, Progress.started_answer, hlength, Progress.started_start,
      List.length_append, List.length_singleton]

theorem keeps (text : ε → String) (calls : Calls ε α) : Keeps text ids sampler calls := by
  induction calls with
  | done => exact keeps_done
  | trace g plan rest ih => exact keeps_trace ih g plan
  | conclude place rest ih => exact keeps_conclude ih place
  | poll g nested rest ihn ih => exact keeps_poll ihn ih g
  | within isFuture g plan nested rest ihn ih => exact keeps_within ihn ih isFuture g plan

def concludeAll (text : ε → String) (guards : List (Started ε α)) (t : Tracer) : Tracer :=
  guards.foldl (fun t s ↦ Service.conclude text s.context s.plan.ending t) t

theorem run_leave (t : Tracer) (p : Progress ε α) :
    (leave text).run t p = (((), concludeAll text p.guards t), { p with guards := [] }) := by
  have hloop : ∀ (guards : List (Started ε α)) (t : Tracer) (p : Progress ε α),
      StateT.run (forIn guards PUnit.unit fun s _ ↦ do
        modifyThe Tracer (Service.conclude text s.context s.plan.ending)
        pure (ForInStep.yield PUnit.unit) : Running ε α PUnit) t p =
      (((), concludeAll text guards t), p) := by
    intro guards
    induction guards with
    | nil =>
      intro t p
      rfl
    | cons s guards ih =>
      intro t p
      rw [List.forIn_cons]
      exact ih _ _
  exact hloop p.guards t { p with guards := [] }

theorem execute_eq (calls : Calls ε α) (t : Tracer) :
    execute text calls t =
      let (t', p') := after text calls t {}
      (concludeAll text p'.guards t', { p' with guards := [] }) := by
  show (let ((_, t'), p') := (leave text).run (after text calls t {}).1 (after text calls t {}).2
    (t', p')) = _
  rw [run_leave]

theorem sound_concludeAll {here : Option SpanContext} {ended guards started : List (Started ε α)}
    {t : Tracer} (h : Sound text ids sampler here ended guards started t)
    (nodup : (started.map (·.context.spanId)).Nodup) :
    Sound text ids sampler here (ended ++ guards) [] started (concludeAll text guards t) := by
  induction guards generalizing ended t with
  | nil =>
    rw [List.append_nil]
    exact h
  | cons s guards ih =>
    have hconclude := ih (h.conclude nodup)
    rw [List.append_assoc] at hconclude
    exact hconclude

/-- Every span of a run with fresh ids ends once, as what its call came to, below the span of the
context that it was given. The results are handed on as they are. Nested closures end their spans
in post-order. -/
theorem ends_every_span_once (text : ε → String) (calls : Calls ε α) (current : Option SpanContext)
    (fresh : ids.Fresh calls.size)
    (sampled : ∀ s ∈ calls.spans ids sampler current [], s.context.sampled) :
    let started := calls.spans ids sampler current []
    ∃ t p ended, execute text calls { ids, sampler, current } = (t, p) ∧
      p.started = started ∧ p.answers = calls.answers ∧
      (∀ s ∈ started, s.context.isValid) ∧ (started.map (·.context.spanId)).Nodup ∧
      ended.Perm started ∧ t.finished = ended.map (Started.record text) ∧ t.recording = [] ∧
      (calls.isNested → ended = (calls.ends 0).filterMap (started[·]?)) := by
  intro started
  have hnumbered : Numbered ids sampler started := numbered_spans calls current .nil
  have hlength : started.length = calls.size := by
    simp [started, length_spans]
  have hfresh : ids.Fresh started.length := hlength ▸ fresh
  have hnodup := hnumbered.nodup hfresh
  have hbegin : Sound text ids sampler current ([] : List (Started ε α)) [] []
      { ids, sampler, current } := by
    constructor <;> rfl
  obtain ⟨t, p, ended, hafter, hstarted, hsound, horder⟩ :=
    keeps text calls _ {} _ _ [] hbegin hnodup
  rw [List.append_nil] at hsound
  have hend := sound_concludeAll hsound (hstarted ▸ hnodup)
  have hperm : (ended ++ p.guards).Perm started := by
    have := hend.perm
    rwa [List.append_nil, hstarted] at this
  refine ⟨concludeAll text p.guards t, { p with guards := [] }, ended ++ p.guards, ?_, hstarted, ?_,
    hnumbered.isValid hfresh, hnodup, hperm, ?_, hend.recording.eq_nil, ?_⟩
  · rw [execute_eq, hafter]
  · have hanswers := answers_after text calls { ids, sampler, current } {}
    rw [hafter] at hanswers
    exact hanswers
  · have hsampled : ∀ s ∈ ended ++ p.guards, s.context.sampled := by
      intro s hs
      exact sampled s (hperm.mem_iff.mp hs)
    rw [hend.finished, records, List.nil_append, List.filter_eq_self.mpr hsampled]
  · intro hnested
    have hguards := guards_after text hnested { ids, sampler, current } {}
    rw [hafter] at hguards
    rw [show p.guards = [] from hguards, List.append_nil]
    exact horder hnested started (hstarted ▸ List.prefix_rfl)

/-- A future that is given up within one that fails, within a closure. -/
theorem ends_every_span_once_inward :
    let ids : IdSource :=
      { trace := fun n ↦ BitVec.ofNat 128 (n + 1), span := fun n ↦ BitVec.ofNat 64 (n + 1) }
    let users : Service := ⟨"users"⟩
    let query : Calls String Nat := within true .current ⟨users, "query", .abandoned⟩ done done
    let get : Calls String Nat :=
      within true (.of 0) ⟨users, "get", .returned (.error "not found")⟩ query done
    let calls : Calls String Nat := within false .root ⟨users, "login", .returned (.ok 7)⟩ get done
    ids.Fresh calls.size ∧ (∀ s ∈ calls.spans ids .alwaysOn none [], s.context.sampled) ∧
      (execute id calls { ids, sampler := .alwaysOn }).1.finished.map
          (fun r ↦ (r.name, r.parent.map (·.spanId), r.status)) =
        [("users.query", some 2, .unset), ("users.get", some 1, .error "not found"),
          ("users.login", none, .unset)] := by
  intro ids users query get calls
  have fresh : ids.Fresh calls.size := ⟨by decide, by decide, by decide⟩
  have sampled : ∀ s ∈ calls.spans ids .alwaysOn none [], s.context.sampled := by decide
  obtain ⟨t, p, ended, hexecute, -, -, -, -, -, hfinished, -, horder⟩ :=
    ends_every_span_once id calls none fresh sampled
  refine ⟨fresh, sampled, ?_⟩
  rw [hexecute, hfinished, horder rfl]
  decide

end Calls

end Telemetry
