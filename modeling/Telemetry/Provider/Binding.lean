import Telemetry.Lifecycle.Alone
import Telemetry.Provider.Cache
import Telemetry.Provider.Shutdown

namespace Telemetry

/-- How the shutdown of a provider goes. Without a span it never returns. A panic comes to an error,
like any other failure. -/
structure Attempt where
  span : Option Duration := some .zero
  result : Except String Unit := .ok ()

namespace Attempt

def resultWithin (a : Attempt) (k : Signal) (limit : Duration) : Except ShutdownError Unit :=
  if a.span.any (·.nanos ≤ limit.nanos) then a.result.mapError (.failed k)
  else .error (.timedOut k limit)

def spanWithin (a : Attempt) (limit : Duration) : Duration :=
  ⟨min (a.span.getD limit).nanos limit.nanos⟩

end Attempt

def defaultShutdownLimit : Duration := .ofSeconds 5

/-- What the hooks of a service do: they shut a provider down, or they do something else of which
only the outcome matters here. -/
inductive Callback (α : Type) where
  | close (signal : Signal) (service : String) (limit : Duration) (provider : α)
  | other (outcome : Lifecycle.Outcome)

variable {α σ : Type}

def shutdownEvent (k : Signal) (service : String) : Except ShutdownError Unit → Event
  | .ok _ => .named "provider_shutdown" .info "telemetry provider shut down"
    [("signal", k.name), ("service", service)]
  | .error e => .named "provider_shutdown_failed" .warn "telemetry provider shutdown failed"
    [("signal", k.name), ("service", service), ("error", e.message)]

def Callback.exec (shutdown : Signal → α → σ → Attempt × σ) :
    Callback α → σ → Lifecycle.Outcome × σ
  | other outcome, s => (outcome, s)
  | close k service limit p, s =>
    let (attempt, s) := shutdown k p s
    ({ span := some (attempt.spanWithin limit)
       reports := [shutdownEvent k service (attempt.resultWithin k limit)] }, s)

def shutdownProvider (shutdown : Signal → α → σ → Attempt × σ) (k : Signal) (limit : Duration) :
    Option α → σ → Except ShutdownError Unit × σ
  | none, s => (.ok (), s)
  | some p, s =>
    let (attempt, s) := shutdown k p s
    (attempt.resultWithin k limit, s)

def shutdownHook (k : Signal) (service : String) (limit : Duration) (p : α) : Hook (Callback α) :=
  { name := k.name ++ "-provider:" ++ service, onStop := some (.close k service limit p) }

/-- The hook for the provider of a lookup, if the lookup made it. -/
def bindingHook? (k : Signal) (service : String) (r : Resolved α) : Option (Hook (Callback α)) :=
  if r.isNew then r.provider.map (shutdownHook k service defaultShutdownLimit) else none

end Telemetry
