import Telemetry.Text.Hex
import Telemetry.Text.Split

namespace Telemetry.Text

def inRanges (ranges : List (Nat × Nat)) (n : Nat) : Bool :=
  ranges.any fun r ↦ r.1 ≤ n && n ≤ r.2

/-- The code points `first, first + step, ..., last`, and what they stand for. -/
structure CodeRun where
  first : Nat
  last : Nat
  step : Nat
  target : Option (List Nat)
  deriving DecidableEq

namespace CodeRun

def covers (r : CodeRun) (n : Nat) : Bool :=
  r.first ≤ n && n ≤ r.last && (n - r.first) % r.step == 0

def image? (r : CodeRun) (n : Nat) : Option (List Nat) :=
  r.target.map fun codes ↦ match codes with
    | [code] => [code + (n - r.first)]
    | codes => codes

def bounds? (cs : List Char) : Option (Nat × Nat × Nat) :=
  match splitFirst '-' cs, splitFirst ':' cs with
  | some (a, b), _ => do return (← Hex.value? a, ← Hex.value? b, 1)
  | none, some (a, b) => do return (← Hex.value? a, ← Hex.value? b, 2)
  | none, none => (Hex.value? cs).map fun n ↦ (n, n, 1)

def ofWord? (cs : List Char) : Option CodeRun :=
  match splitFirst '>' cs with
  | some (source, target) => do
    let (first, last, step) ← bounds? source
    return ⟨first, last, step, some ((splitOn '.' target).filterMap Hex.value?)⟩
  | none => (bounds? cs).map fun (first, last, step) ↦ ⟨first, last, step, none⟩

end CodeRun

abbrev Words := List (List Char) × List Char

namespace Words

def endWord (w : Words) : Words :=
  if w.2.isEmpty then w else (w.2.reverse :: w.1, [])

def read (w : Words) (c : Char) : Words :=
  if c = ' ' || c = '\n' then w.endWord else (w.1, c :: w.2)

end Words

def codeRuns (s : String) : List CodeRun :=
  (s.toList.foldl Words.read ([], [])).endWord.1.reverse.filterMap CodeRun.ofWord?

def codeRanges (s : String) : List (Nat × Nat) :=
  (codeRuns s).map fun r ↦ (r.first, r.last)

end Telemetry.Text
