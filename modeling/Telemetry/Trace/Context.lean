import Telemetry.Text.Hex
import Telemetry.Text.Split

namespace Telemetry

structure TraceState where
  entries : List (String × String) := []
  deriving DecidableEq

namespace TraceState

def isKeyStart (c : Char) : Bool := ('a' ≤ c && c ≤ 'z') || ('0' ≤ c && c ≤ '9')

def isKeyChar (c : Char) : Bool := isKeyStart c || ['_', '-', '*', '/'].contains c

def isKeyPart (cs : List Char) : Bool :=
  (cs.head?.all isKeyStart) && cs.all isKeyChar

/-- A key has 256 characters at most, and one at sign, in front of which something stands and after
which no more than 13 characters do. -/
def isKey (cs : List Char) : Bool :=
  cs.length ≤ 256 &&
    match Text.splitFirst '@' cs with
    | none => isKeyPart cs
    | some (tenant, system) =>
      !tenant.isEmpty && isKeyPart tenant && isKeyPart system && system.length ≤ 13

def isValue (value : String) : Bool :=
  value.utf8ByteSize ≤ 256 && value.toList.all fun c ↦ c != ',' && c != '='

def entry? (cs : List Char) : Option (String × String) :=
  match Text.splitFirst '=' cs with
  | none => none
  | some (key, rest) =>
    let value := String.ofList (rest.dropWhile (· == '='))
    if isKey key && isValue value then some (String.ofList key, value) else none

/-- Reads a header. One bad entry makes all of it void. -/
def parse? (header : String) : Option TraceState :=
  ((Text.splitEnded ',' header.toList).mapM entry?).map TraceState.mk

def render (s : TraceState) : String :=
  ",".intercalate (s.entries.map fun e ↦ e.1 ++ "=" ++ e.2)

end TraceState

structure SpanContext where
  traceId : BitVec 128
  spanId : BitVec 64
  flags : UInt8 := 0
  remote : Bool := false
  state : TraceState := {}
  deriving DecidableEq

namespace SpanContext

def none : SpanContext := { traceId := 0, spanId := 0 }

def isValid (s : SpanContext) : Bool := s.traceId != 0 && s.spanId != 0

/-- Whether the lowest flag is set, which is the only one with a meaning. -/
def sampled (s : SpanContext) : Bool := s.flags &&& 1 == 1

def traceText (s : SpanContext) : String := String.ofList (Hex.fixed 32 s.traceId.toNat)

def spanText (s : SpanContext) : String := String.ofList (Hex.fixed 16 s.spanId.toNat)

end SpanContext

end Telemetry
