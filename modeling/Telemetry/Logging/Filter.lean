import Telemetry.Logging.Directive

namespace Telemetry.Logging

structure Filter where
  directives : List Directive
  deriving DecidableEq

namespace Filter

def parse (s : String) : Except DirectiveFault Filter :=
  (((Text.splitOn ',' s.toList).filter (!·.isEmpty)).mapM Directive.ofText).map Filter.mk

def deciding? (f : Filter) (condition : Directive → Bool) : Option Directive :=
  (f.directives.filter fun d ↦ d.isStatic && condition d).foldl
    (fun best d ↦ if best.all (·.yieldsTo d) then some d else best) none

def allowsEvent (f : Filter) (e : Entry) : Bool :=
  let condition (d : Directive) :=
    d.coversTarget e.target && d.field.all fun t ↦ e.fieldNames.contains t.name
  (f.deciding? condition).any fun d ↦ e.event.level.detail ≤ d.detail

def allowsSpan (f : Filter) (s : Scope) : Bool :=
  (f.deciding? (·.coversTarget s.target)).any fun d ↦ s.level.detail ≤ d.detail

def lastOfEach : List Directive → List Directive
  | [] => []
  | d :: ds => if ds.any (·.sameSubject d) then lastOfEach ds else d :: lastOfEach ds

/-- How detailed events may be because they fall into a span, if a directive selects it: as the
most generous one of those allows whose test of a field the span passes. -/
def within? (f : Filter) (s : Scope) : Option Detail :=
  match (lastOfEach (f.directives.filter (·.isDynamic))).filter (·.selects s) with
  | [] => none
  | ds => some ((ds.filter fun d ↦ d.field.all (·.holds s)).foldl (fun n d ↦ max n d.detail) 0)

def testsValues (f : Filter) : Bool :=
  f.directives.any fun d ↦ d.field.any (·.value.isSome)

/-- Nothing more detailed than this is looked at: the values of a span are known only once it has
been made. -/
def ceiling (f : Filter) : Detail :=
  if f.testsValues then Directive.everything
  else f.directives.foldl (fun n d ↦ max n d.detail) 0

/-- Whether a span is seen. Unless `all` spans are made, one beyond the ceiling is not even made. -/
def seesSpan (f : Filter) (all : Bool) (s : Scope) : Bool :=
  (all || s.level.detail ≤ f.ceiling) && ((f.within? s).isSome || f.allowsSpan s)

def seesEvent (f : Filter) (all : Bool) (e : Entry) : Bool :=
  let inherited := (e.scope.filter (f.seesSpan all)).bind f.within?
  f.allowsEvent e || inherited.any (e.event.level.detail ≤ ·)

end Filter

end Telemetry.Logging
