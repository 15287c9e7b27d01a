import Mathlib
import Telemetry.Proofs.Lifecycle.Whole
import Telemetry.Provider.Binding

namespace Telemetry

open Lifecycle

variable {α σ : Type}

namespace Attempt

def SucceedsWithin (a : Attempt) (limit : Duration) : Prop :=
  a.result = .ok () ∧ ∃ d ∈ a.span, d.nanos ≤ limit.nanos

theorem resultWithin_eq_ok_iff {a : Attempt} {k : Signal} {limit : Duration} :
    a.resultWithin k limit = .ok () ↔ a.SucceedsWithin limit := by
  have hany : a.span.any (·.nanos ≤ limit.nanos) = true ↔ ∃ d ∈ a.span, d.nanos ≤ limit.nanos := by
    simp [Option.any_eq_true]
  rw [resultWithin, SucceedsWithin, ← hany]
  split
  · next h => cases a.result <;> simp [Except.mapError, h]
  · next h => simp [h]

theorem spanWithin_le (a : Attempt) (limit : Duration) :
    (a.spanWithin limit).nanos ≤ limit.nanos :=
  Nat.min_le_right _ _

end Attempt

structure Registration (α : Type) where
  signal : Signal
  service : String
  limit : Duration
  provider : α

namespace Registration

def hook (r : Registration α) : Hook (Callback α) :=
  shutdownHook r.signal r.service r.limit r.provider

def lifecycle (rs : List (Registration α)) : Lifecycle (Callback α) :=
  rs.foldl (fun l r ↦ l.append r.hook) {}

def report (r : Registration α) (a : Attempt) : Event :=
  shutdownEvent r.signal r.service (a.resultWithin r.signal r.limit)

inductive Report (r : Registration α) (a : Attempt) : Event → Prop
  | shutDown (h : a.SucceedsWithin r.limit) : Report r a
      (.named "provider_shutdown" .info "telemetry provider shut down"
        [("signal", r.signal.name), ("service", r.service)])
  | failed (h : ¬ a.SucceedsWithin r.limit) (error : String) : Report r a
      (.named "provider_shutdown_failed" .warn "telemetry provider shutdown failed"
        [("signal", r.signal.name), ("service", r.service), ("error", error)])

theorem report_spec (r : Registration α) (a : Attempt) : Report r a (r.report a) := by
  unfold report
  cases hr : a.resultWithin r.signal r.limit with
  | ok => exact .shutDown (Attempt.resultWithin_eq_ok_iff.mp hr)
  | error e =>
    refine .failed (fun hs ↦ ?_) _
    rw [Attempt.resultWithin_eq_ok_iff.mpr hs] at hr
    cases hr

def shutdowns (shutdown : Signal → α → σ → Attempt × σ) :
    List (Registration α) → σ → List (Registration α × Attempt) × σ
  | [], v => ([], v)
  | r :: rs, v =>
    let (a, v) := shutdown r.signal r.provider v
    let (log, v) := shutdowns shutdown rs v
    ((r, a) :: log, v)

theorem shutdowns_fst (shutdown : Signal → α → σ → Attempt × σ) (rs : List (Registration α))
    (v : σ) : (shutdowns shutdown rs v).1.map (·.1) = rs := by
  induction rs generalizing v with
  | nil => rfl
  | cons r rs ih => rw [shutdowns, List.map_cons, ih]

section Stopping

variable (t : Timeouts) (shutdown : Signal → α → σ → Attempt × σ)

def closingEvents (p : Registration α × Attempt) : List Event :=
  [World.heading p.1.hook.name .stop, p.1.report p.2]

def waited (log : List (Registration α × Attempt)) : Nat :=
  (log.map fun p ↦ (p.2.spanWithin p.1.limit).nanos).sum

def closed (rs : List (Registration α)) (s : Course (Callback α) σ) : Course (Callback α) σ :=
  let (log, v) := shutdowns shutdown rs s.surroundings
  { s with
    surroundings := v
    elapsed := ⟨s.elapsed.nanos + waited log⟩
    events := s.events ++ log.flatMap closingEvents }

/-- The limit of the provider does for that of the lifecycle, which is no shorter. -/
theorem invoke_close {r : Registration α} (h : r.limit.nanos ≤ t.stop.nanos)
    (s : Course (Callback α) σ) :
    s.invoke t (Callback.exec shutdown) .stop r.hook.name
        (.close r.signal r.service r.limit r.provider) =
      (.ok (), closed shutdown [r] s) := by
  have hexec : Callback.exec shutdown (.close r.signal r.service r.limit r.provider)
        s.surroundings =
      ({ span := some ((shutdown r.signal r.provider s.surroundings).1.spanWithin r.limit)
         reports := [r.report (shutdown r.signal r.provider s.surroundings).1] },
        (shutdown r.signal r.provider s.surroundings).2) := rfl
  have hle : ((shutdown r.signal r.provider s.surroundings).1.spanWithin r.limit).nanos ≤
      t.stop.nanos := (Attempt.spanWithin_le _ _).trans h
  simp [Course.invoke, hexec, Timeouts.limit, Outcome.resultWithin, Outcome.endsWithin,
    Outcome.reportsWithin, Outcome.spanWithin, hle, World.complaint, closed, shutdowns, waited,
    closingEvents]

theorem stopOne_hook {r : Registration α} (h : r.limit.nanos ≤ t.stop.nanos)
    (fs : List Failure) (s : Course (Callback α) σ) :
    Course.stopOne t (Callback.exec shutdown) (fs, s) r.hook = (fs, closed shutdown [r] s) := by
  have honStop : r.hook.onStop = some (.close r.signal r.service r.limit r.provider) := rfl
  simp only [Course.stopOne, honStop, invoke_close t shutdown h, blame, List.append_nil]

theorem closed_cons (r : Registration α) (rs : List (Registration α))
    (s : Course (Callback α) σ) :
    closed shutdown (r :: rs) s = closed shutdown rs (closed shutdown [r] s) := by
  simp [closed, shutdowns, waited, Nat.add_assoc]

theorem foldl_stopOne_hooks {rs : List (Registration α)}
    (h : ∀ r ∈ rs, r.limit.nanos ≤ t.stop.nanos) (fs : List Failure)
    (s : Course (Callback α) σ) :
    (rs.map hook).foldl (Course.stopOne t (Callback.exec shutdown)) (fs, s) =
      (fs, closed shutdown rs s) := by
  -- No hook adds a failure, so the failures so far are carried along unchanged.
  induction rs generalizing s with
  | nil => simp [closed, shutdowns, waited]
  | cons r rs ih =>
    rw [List.map_cons, List.foldl_cons, stopOne_hook t shutdown (h r (by simp)),
      ih fun r' hr' ↦ h r' (List.mem_cons_of_mem r hr'), closed_cons shutdown r rs s]

variable {t shutdown}

theorem lifecycle_eq (rs : List (Registration α)) : lifecycle rs = ⟨rs.map hook, 0, .idle⟩ := by
  have grows (l : List (Hook (Callback α))) :
      rs.foldl (fun l r ↦ Lifecycle.append l r.hook) ⟨l, 0, .idle⟩ = ⟨l ++ rs.map hook, 0, .idle⟩ := by
    induction rs generalizing l with
    | nil => simp
    | cons r rs ih =>
      have taken : Lifecycle.append ⟨l, 0, .idle⟩ r.hook = ⟨l ++ [r.hook], 0, .idle⟩ := rfl
      rw [List.foldl_cons, taken, ih, List.append_assoc]
      rfl
  exact grows []

theorem climb_hooks (rs : List (Registration α)) (s : Course (Callback α) σ) :
    Course.Climb t (Callback.exec shutdown) s (rs.map hook) s := by
  induction rs with
  | nil => exact .nil s
  | cons r rs ih => exact .bare rfl ih

theorem runAlone_start_registered {rs : List (Registration α)} {s : Course (Callback α) σ}
    (hs : s.lifecycle = lifecycle rs) : runAlone t (Callback.exec shutdown) .start s =
      (some (.ok ()), { s with lifecycle := ⟨rs.map hook, rs.length, .running⟩ }) := by
  have hbare : (rs.map hook).map disarm = rs.map hook := by
    rw [List.map_map]
    rfl
  rw [runAlone_start_of_climb (hs.trans (lifecycle_eq rs)) (climb_hooks rs s), hbare,
    List.length_map]

theorem runAlone_stop_registered {rs : List (Registration α)} {s : Course (Callback α) σ}
    (h : ∀ r ∈ rs, r.limit.nanos ≤ t.stop.nanos)
    (hs : s.lifecycle = ⟨rs.map hook, rs.length, .running⟩) :
    runAlone t (Callback.exec shutdown) .stop s =
      (some (.ok ()), { closed shutdown rs.reverse s with lifecycle := ⟨[], 0, .stopped⟩ }) := by
  have hreverse : ((rs.map hook).take rs.length).reverse = rs.reverse.map hook := by simp
  have hstops : s.stopAll t (Callback.exec shutdown) (rs.reverse.map hook) =
      ([], closed shutdown rs.reverse s) :=
    foldl_stopOne_hooks t shutdown (fun r hr ↦ h r (List.mem_reverse.mp hr)) [] s
  rw [runAlone_stop (by rw [hs])]
  simp only [Course.wind, hs, hreverse, hstops]
  simp [Call.verdict, Call.rollbackEvents]

end Stopping

section Journal

def journaled (shutdown : Signal → α → σ → Attempt × σ) (k : Signal) (p : α)
    (s : σ × List (Signal × α × Attempt)) : Attempt × σ × List (Signal × α × Attempt) :=
  let (a, v) := shutdown k p s.1
  (a, v, s.2 ++ [(k, p, a)])

def entry (p : Registration α × Attempt) : Signal × α × Attempt :=
  (p.1.signal, p.1.provider, p.2)

/-- A stop call has shut registered providers down, as a log of it has it: each once, last one
first, within the sum of their limits, and with a report on each. -/
structure ShutDown (rs : List (Registration α)) (log : List (Registration α × Attempt))
    (before after : Course (Callback α) (σ × List (Signal × α × Attempt))) : Prop where
  order : log.map (·.1) = rs.reverse
  journal : after.surroundings.2 = before.surroundings.2 ++ log.map entry
  time : after.elapsed.nanos ≤ before.elapsed.nanos + (rs.map (·.limit.nanos)).sum
  events : after.events = before.events ++ log.flatMap closingEvents
  reports : ∀ p ∈ log, Report p.1 p.2 (p.1.report p.2)
  lifecycle : after.lifecycle = ⟨[], 0, .stopped⟩

variable (shutdown : Signal → α → σ → Attempt × σ)

theorem journal_shutdowns (rs : List (Registration α)) (s : σ × List (Signal × α × Attempt)) :
    (shutdowns (journaled shutdown) rs s).2.2 =
      s.2 ++ (shutdowns (journaled shutdown) rs s).1.map entry := by
  induction rs generalizing s with
  | nil => simp [shutdowns]
  | cons r rs ih => simp [shutdowns, ih, journaled, entry]

theorem waited_le (log : List (Registration α × Attempt)) :
    waited log ≤ ((log.map (·.1)).map (·.limit.nanos)).sum := by
  rw [List.map_map]
  exact List.sum_le_sum fun p _ ↦ Attempt.spanWithin_le p.2 p.1.limit

/-- Whatever comes of the shutdown of any provider, stopping succeeds and shuts all of them down. -/
theorem stop_shuts_down (t : Timeouts) {rs : List (Registration α)}
    (h : ∀ r ∈ rs, r.limit.nanos ≤ t.stop.nanos) (v : σ) :
    ∃ running stopped log,
      runAlone t (Callback.exec (journaled shutdown)) .start
        { lifecycle := lifecycle rs, surroundings := (v, []) } = (some (.ok ()), running) ∧
      running.surroundings = (v, []) ∧
      runAlone t (Callback.exec (journaled shutdown)) .stop running =
        (some (.ok ()), stopped) ∧
      ShutDown rs log running stopped := by
  have hlog := shutdowns_fst (journaled shutdown) rs.reverse (v, [])
  refine ⟨_, _, (shutdowns (journaled shutdown) rs.reverse (v, [])).1,
    runAlone_start_registered rfl, rfl, runAlone_stop_registered h rfl, ?_⟩
  exact {
    order := hlog
    journal := journal_shutdowns shutdown rs.reverse (v, [])
    time := by
      have hwaited := waited_le (shutdowns (journaled shutdown) rs.reverse (v, [])).1
      rw [hlog, List.map_reverse, List.sum_reverse] at hwaited
      exact Nat.add_le_add_left hwaited _
    events := rfl
    reports := fun p _ ↦ p.1.report_spec p.2
    lifecycle := rfl }

/-- Providers whose shutdown comes off, comes too late, fails, panics and never returns. -/
def mixed : List (Registration Attempt) := [
  ⟨.traces, "orders", .ofMillis 20, {}⟩,
  ⟨.metrics, "orders", .ofMillis 20, { span := some (.ofMillis 200) }⟩,
  ⟨.logs, "orders", .ofMillis 20, { result := .error "provider 3 refused to flush" }⟩,
  ⟨.traces, "billing", .ofSeconds 5, { result := .error "task 7 panicked" }⟩,
  ⟨.metrics, "billing", .ofSeconds 15, { span := none }⟩]

theorem stop_shuts_down_mixed : (∀ r ∈ mixed, r.limit.nanos ≤ ({} : Timeouts).stop.nanos) ∧
    ∃ running stopped log,
      runAlone {} (Callback.exec (journaled fun _ a n ↦ (a, n + 1))) .start
        { lifecycle := lifecycle mixed, surroundings := (0, []) } = (some (.ok ()), running) ∧
      running.surroundings = (0, []) ∧
      runAlone {} (Callback.exec (journaled fun _ a n ↦ (a, n + 1))) .stop running =
        (some (.ok ()), stopped) ∧
      ShutDown mixed log running stopped :=
  ⟨by decide, stop_shuts_down (fun _ a n ↦ (a, n + 1)) {} (by decide) 0⟩

end Journal

end Registration

end Telemetry
