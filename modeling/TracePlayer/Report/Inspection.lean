/-
**A state as a report.**

Main definitions:

* `Log.stateAt`: the state after a step, the last one unless a step is asked for;
* `State.report`: a state in lines of text;
* `Log.inspection`, `Log.inspectionDocument`: the report on a step, as text and as JSON.
-/
import TracePlayer.Program.State
import TracePlayer.Trace.Log

set_option autoImplicit false

namespace TracePlayer

/-- The step that is asked for, the last one if none is. -/
def Log.stepOrLast (log : Log) (step : Option Int) : Int := step.getD log.maxStep

/-- The state after the step that is asked for. -/
def Log.stateAt (log : Log) (step : Option Int) : State :=
  State.atStep log.events (log.stepOrLast step)

/-! ### Text -/

/-- A line with its newline. -/
def ended (line : String) : String := line ++ "\n"

/-- The lines about an event: what happened where, and which exception it reports. -/
def Event.report (event : Event) : String :=
  ended ("event " ++ event.kind.name ++ " in " ++ event.function ++ " " ++ event.frame.text
      ++ " at line " ++ toString event.line.toNat)
    ++ match event.exception? with
      | some (type, message) => ended ("exception " ++ type ++ ": " ++ message)
      | none => ""

/-- The lines about a frame: the frame itself, its variables and the value it returned. -/
def Frame.report (frame : Frame) : String :=
  ended ("  " ++ frame.id.text ++ " " ++ frame.function ++ " depth " ++ toString frame.depth.toNat
      ++ (if frame.isClosed then " closed" else " open"))
    ++ String.join (frame.locals.toList.map fun (name, value) =>
      ended ("    " ++ name ++ " = " ++ value.compress))
    ++ match frame.returnValue with
      | some value => ended ("    -> " ++ value.compress)
      | none => ""

/-- The lines about an output; the last one is ended if it was not. -/
def outputReport (stdout : String) : String :=
  if stdout.isEmpty then ""
  else "stdout:\n" ++ (if stdout.toList.getLast? = some '\n' then stdout else ended stdout)

/-- A state in lines of text. -/
def State.report (state : State) (maxStep : Nat) : String :=
  match state.step? with
  | none => ended "no events"
  | some step =>
      ended ("step " ++ toString step ++ "/" ++ toString maxStep)
        ++ (state.lastEvent.map Event.report).getD ""
        ++ ended ("frames " ++ toString state.frames.size ++ " ("
          ++ toString state.closedCount ++ " closed)")
        ++ String.join (state.frames.toList.map Frame.report)
        ++ outputReport state.stdout

/-- The report on a step. -/
def Log.inspection (log : Log) (step : Option Int) : String :=
  (log.stateAt step).report log.maxStep

/-! ### JSON -/

/-- The report on a state as a JSON value. -/
def Log.inspectionJson (log : Log) (state : State) : Json :=
  .obj [("run_id", .str log.run.text), ("step_index", .ofOption Json.ofNat state.step?),
    ("max_step", .ofNat log.maxStep),
    ("line", .ofOption (fun line => .ofNat line.toNat) state.line?), ("state", state.encode)]

/-- The report on a step as a JSON document, without a newline at its end. -/
def Log.inspectionDocument (log : Log) (step : Option Int) : String :=
  (log.inspectionJson (log.stateAt step)).pretty

end TracePlayer
