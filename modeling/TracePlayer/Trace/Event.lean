/-
**Events of a trace.**

Main definitions:

* `FrameId`: the number of a frame;
* `Event`: one entry of a trace;
* `Event.same`: equality of events, in which JSON values are compared as values;
* `Event.exception?`: the exception that an event reports.
-/
import TracePlayer.Json.Writer
import TracePlayer.Trace.Kind

set_option autoImplicit false

namespace TracePlayer

/-- The number of a frame, given by the tracer and never used again within a run. -/
abbrev FrameId := UInt64

/-- A frame number as it is shown. -/
def FrameId.text (id : FrameId) : String := "#" ++ toString id.toNat

/-- One entry of a trace. -/
structure Event where
  /-- The step number given by the tracer. -/
  step : UInt64
  /-- The clock of the tracer, in nanoseconds. -/
  timestamp : UInt64
  /-- The time since the event before, in nanoseconds. -/
  delta : UInt64
  /-- What the program was doing. -/
  kind : Kind
  /-- The function that was running. -/
  function : String
  /-- The source line, counted from one. -/
  line : UInt32
  /-- The frame the event belongs to. -/
  frame : FrameId
  /-- The frame that called it. -/
  parent : Option FrameId
  /-- How deep the frame lies in the stack. -/
  depth : UInt32
  /-- The arguments of a call. -/
  args : Option (Bindings Json)
  /-- The local variables set at this step. -/
  assignments : Option (Bindings Json)
  /-- The values these variables had before. -/
  previous : Option (Bindings Json)
  /-- The value returned; `null` is a value like any other. -/
  returnValue : Option Json
  /-- The output printed at this step. -/
  stdout : Option String
  /-- Further entries, kept as they came. -/
  extra : Bindings Json

namespace Event

/-- An event with nothing but a step number, a kind and a frame. -/
def plain (step : UInt64) (kind : Kind) (frame : FrameId) : Event where
  step := step
  timestamp := 0
  delta := 0
  kind := kind
  function := ""
  line := 0
  frame := frame
  parent := none
  depth := 0
  args := none
  assignments := none
  previous := none
  returnValue := none
  stdout := none
  extra := .empty

/-- The output printed at this step, empty if there is none. -/
def fragment (event : Event) : String := event.stdout.getD ""

/-- Equality of optional bindings, their values compared as values. -/
def sameBindings? : Option (Bindings Json) → Option (Bindings Json) → Bool
  | none, none => true
  | some xs, some ys => Json.sameBindings xs ys
  | _, _ => false

/-- Equality of events, their values compared as values. -/
def same (x y : Event) : Bool :=
  x.step == y.step && x.timestamp == y.timestamp && x.delta == y.delta
    && decide (x.kind = y.kind) && x.function == y.function && x.line == y.line
    && x.frame == y.frame && x.parent == y.parent && x.depth == y.depth
    && sameBindings? x.args y.args && sameBindings? x.assignments y.assignments
    && sameBindings? x.previous y.previous && Json.sameOption x.returnValue y.returnValue
    && x.stdout == y.stdout && Json.sameBindings x.extra y.extra

/-- A further entry as text: a string as it is, another value in JSON, nothing for a missing
one. -/
def extraText (event : Event) (name : String) : String :=
  match event.extra.find? name with
  | some (.str s) => s
  | some value => value.compress
  | none => ""

/-- The type and the message of the exception that the event reports: every event of that kind
reports one, and so does every event that names an exception type. -/
def exception? (event : Event) : Option (String × String) :=
  if event.kind = .exception ∨ event.extra.contains "exc_type" then
    some (event.extraText "exc_type", event.extraText "exc")
  else none

end Event

end TracePlayer
