import Telemetry.Config.Logging
import Telemetry.Logging.Filter
import Telemetry.Text.Quoted

namespace Telemetry.Logging

structure Output where
  filter : Filter
  format : LogFormat
  exporting : Bool
  deriving DecidableEq

namespace Output

def valueJson : Event.Value → Json
  | .text s | .shown s => .str s
  | .flag b => .bool b
  | .count n => .num (.natural n)

def scopeJson (s : Scope) : Json :=
  .obj (("name", .str s.name) :: s.fields.map fun f ↦ (f.1, .str f.2))

def entryJson (e : Entry) : Json :=
  .obj <| [("level", .str e.event.level.name), ("target", .str e.target),
      ("message", .str e.event.message)] ++
    e.event.fields.map (fun f ↦ (f.1, valueJson f.2)) ++
    e.scope.toList.map fun s ↦ ("span", scopeJson s)

def valueText : Event.Value → String
  | .text s => Text.quoted s
  | .shown s => s
  | .flag b => if b then "true" else "false"
  | .count n => n.repr

/-- A character of a message. Those that would steer a terminal are written as escapes. -/
def messageChar (c : Char) : List Char :=
  if (['\x07', '\x08', '\x0c', '\x1b', '\x7f'] : List Char).contains c then
    ['\\', 'x'] ++ Hex.fixed 2 c.toNat
  else if 0x80 ≤ c.toNat && c.toNat < 0xA0 then
    ['\\', 'u', '\x7b'] ++ Hex.digits c.toNat ++ ['\x7d']
  else [c]

def entryLines (e : Entry) : List String :=
  let message := String.ofList (e.event.message.toList.flatMap messageChar)
  let fields := e.event.fields.map fun f ↦ ", " ++ f.1 ++ ": " ++ valueText f.2
  let text := e.event.level.name ++ " " ++ e.target ++ ": " ++ message ++ String.join fields
  let scope := e.scope.toList.map fun s ↦
    let values := s.fields.map fun f ↦ f.1 ++ ": " ++ Text.quoted f.2
    "in " ++ s.target ++ "::" ++ s.name ++
      (if values.isEmpty then "" else " with " ++ ", ".intercalate values)
  (Text.splitOn '\n' text.toList).map String.ofList ++ scope

def visible? (o : Output) (e : Entry) : Option Entry :=
  if o.filter.seesEvent o.exporting e then
    some { e with scope := e.scope.filter (o.filter.seesSpan o.exporting) }
  else none

def write (o : Output) (e : Entry) : List Json :=
  match o.visible? e with
  | none => []
  | some e => match o.format with
    | .json => [entryJson e]
    | .pretty => (entryLines e).map Json.str

end Output

end Telemetry.Logging
