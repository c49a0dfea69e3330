/-
**The log of one run.**

Main definitions:

* `RunId`: the name of a run;
* `Log`: the program and the events of one run; the place of an event in the list, and not the
  number the tracer gave it, is its step.
-/
import TracePlayer.Trace.Payload

set_option autoImplicit false

namespace TracePlayer

/-- The name of a run, chosen by whoever records it. -/
structure RunId where
  /-- The name. -/
  name : String
  deriving DecidableEq, Inhabited

/-- The name of a run as it is shown. -/
def RunId.text (run : RunId) : String := "run_" ++ run.name

/-- The program and the events of one run. -/
structure Log where
  /-- The run that the log records. -/
  run : RunId
  /-- The name the program ran under. -/
  filename : String
  /-- The source text of the program. -/
  source : String
  /-- The events, in order. -/
  events : List Event

namespace Log

/-- The log of a run that produced a payload. -/
def ofPayload (run : RunId) (payload : Payload) : Log :=
  ⟨run, payload.filename, payload.source, payload.events⟩

/-- The log of a run without a program and without events. -/
def empty (run : RunId) : Log := ⟨run, Payload.defaultFilename, "", []⟩

/-- The payload that a log was made from. -/
def toPayload (log : Log) : Payload := ⟨log.filename, log.source, log.events⟩

/-- The number of events. -/
def length (log : Log) : Nat := log.events.length

/-- Whether there are no events. -/
def isEmpty (log : Log) : Bool := log.events.isEmpty

/-- The last step, `0` for a log without events. -/
def maxStep (log : Log) : Nat := log.events.length - 1

/-- The event at a step. -/
def event? (log : Log) (step : Nat) : Option Event := log.events[step]?

/-- The lines of the source text. -/
def sourceLines (log : Log) : List String := Lines.split log.source

end Log

end TracePlayer
