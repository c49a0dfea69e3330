/-
**Recording a run.**

Main definitions:

* `RecordingFault`, `RecordingFault.message`: why there is no trace;
* `record`: starts an interpreter, lets it run a program and stops it.
-/
import TracePlayer.Interpreter.Session

set_option autoImplicit false

namespace TracePlayer

/-- Why there is no trace. -/
inductive RecordingFault where
  /-- The interpreter did not get ready. -/
  | cannotStart (program : String) (cause : InterpreterError)
  /-- The run failed. -/
  | runFailed (cause : InterpreterError)
  deriving DecidableEq

namespace RecordingFault

/-- The words for a fault, without its cause. -/
def message : RecordingFault → String
  | cannotStart program _ => "cannot start interpreter " ++ program
  | runFailed _ => "run failed"

/-- The cause of a fault. -/
def cause : RecordingFault → InterpreterError
  | cannotStart _ cause => cause
  | runFailed cause => cause

end RecordingFault

/-- **The log of one run** of a program in an interpreter that is started for it. -/
def record (launch : Launch) (spawn : Spawn) (request : RunRequest) (run : RunId) :
    Except RecordingFault Log :=
  let session := Session.fresh (Worker.idle launch spawn)
  match session.perform Worker.backend 0 .start run with
  | (some (.failed error), _) => .error (.cannotStart launch.program error)
  | (_, session) =>
      match session.perform Worker.backend 0 (.run request) run with
      | (some (.trace log), _) => .ok log
      | (some (.failed error), _) => .error (.runFailed error)
      | (_, _) => .error (.runFailed .notStarted)

end TracePlayer
