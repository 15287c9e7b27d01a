import Telemetry.Event

namespace Telemetry.Logging

structure Scope where
  name : String
  target : String
  level : Level
  fields : List (String × String) := []
  deriving DecidableEq

structure Entry where
  event : Event
  target : String
  scope : Option Scope := none
  deriving DecidableEq

namespace Entry

def fieldNames (e : Entry) : List String :=
  "message" :: e.event.fields.map (·.1)

end Entry

end Telemetry.Logging
