/-
**A run in outline.**

Main definitions:

* `State.outline`, `Log.outline`: the call forest in lines of text;
* `Log.summary`: what came out of a run.
-/
import TracePlayer.Program.Forest
import TracePlayer.Report.Inspection
import TracePlayer.Text.Pad

set_option autoImplicit false

namespace TracePlayer

/-- What has become of a frame: nothing to say while it is open, and the value if it returned
one. -/
def Frame.ending (frame : Frame) : String :=
  match frame.closing with
  | none => ""
  | some ⟨_, none⟩ => " (returned)"
  | some ⟨_, some value⟩ => " (returned: " ++ value.compress ++ ")"

/-- The line of a frame in the outline, two blanks for each level. -/
def Frame.outline (frame : Frame) (level : Nat) : String :=
  String.join (List.replicate level "  ") ++ frame.function ++ " " ++ frame.id.text ++ frame.ending
    ++ "\n"

/-- **The call forest of a state** in lines of text, one for each frame. -/
def State.outline (state : State) : String :=
  String.join (state.forest.walk.map fun visit =>
    match state.frame? visit.frame with
    | some frame => frame.outline visit.level
    | none => "")

/-- The call forest after a step. -/
def Log.outline (log : Log) (step : Option Int) : String := (log.stateAt step).outline

/-- What came out of a run: the numbers of events and frames, the exception that ended it and its
output. -/
def Log.summary (log : Log) : String :=
  let state := log.stateAt none
  toString log.length ++ " events, " ++ toString state.frames.size ++ " frames\n"
    ++ (match state.lastEvent.bind Event.exception? with
      | some (type, message) => "raised " ++ type ++ ": " ++ message ++ "\n"
      | none => "")
    ++ state.stdout

end TracePlayer
