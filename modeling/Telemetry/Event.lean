namespace Telemetry

inductive Level where
  | error
  | warn
  | info
  | debug
  | trace
  deriving DecidableEq

namespace Level

def name : Level → String
  | error => "ERROR"
  | warn => "WARN"
  | info => "INFO"
  | debug => "DEBUG"
  | trace => "TRACE"

/-- Place in the order of detail: a filter lets through what is not more detailed than it. -/
def detail : Level → Nat
  | error => 1
  | warn => 2
  | info => 3
  | debug => 4
  | trace => 5

def all : List Level := [error, warn, info, debug, trace]

def ofName? (s : String) : Option Level :=
  all.find? fun level ↦ level.name == s

end Level

inductive Event.Value where
  | text (s : String)
  | shown (s : String)
  | flag (b : Bool)
  | count (n : Nat)
  deriving DecidableEq

structure Event where
  level : Level
  message : String
  fields : List (String × Event.Value)
  deriving DecidableEq

def Event.ofTexts (level : Level) (message : String) (fields : List (String × String)) : Event :=
  ⟨level, message, fields.map fun f ↦ (f.1, .shown f.2)⟩

def Event.named (name : String) (level : Level) (message : String)
    (fields : List (String × String)) : Event :=
  ⟨level, message, ("event", .text name) :: fields.map fun f ↦ (f.1, .shown f.2)⟩

abbrev Reporting := StateM (List Event)

def report (e : Event) : Reporting Unit := modify (· ++ [e])

end Telemetry
