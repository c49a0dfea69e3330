/-
**An interpreter in a process of its own.**

Main definitions:

* `Backend`: anything that runs programs and hands back their traces;
* `Worker`: an interpreter that is launched when it is started;
* `Worker.start`, `Worker.run`, `Worker.stop`: what can be asked of it;
* `Prompter`: an interpreter that gives prepared answers.
-/
import TracePlayer.Interpreter.Channel
import TracePlayer.Interpreter.Launch

set_option autoImplicit false

namespace TracePlayer

/-- Anything that runs programs and hands back their traces. -/
structure Backend (Interpreter : Type) where
  /-- Brings it up; nothing happens if it is up. -/
  start : Interpreter → Except InterpreterError Unit × Interpreter
  /-- Runs one program. -/
  run : RunRequest → Interpreter → Except InterpreterError Payload × Interpreter
  /-- Shuts it down. -/
  stop : Interpreter → Interpreter
  /-- Whether it is up. -/
  isStarted : Interpreter → Bool

/-! ### Workers -/

/-- What comes of launching a program. -/
inductive Spawn where
  /-- It acts. -/
  | runs (actions : List Peer.Action)
  /-- It cannot be launched. -/
  | fails (reason : String)
  deriving DecidableEq

/-- An interpreter that is launched when it is started. -/
structure Worker where
  /-- How it is launched. -/
  launch : Launch
  /-- What comes of that. -/
  spawn : Spawn
  /-- The connection, if it is up. -/
  channel : Option Channel
  deriving DecidableEq

namespace Worker

/-- An interpreter that has not been started. -/
def idle (launch : Launch) (spawn : Spawn) : Worker := ⟨launch, spawn, none⟩

/-- Whether the interpreter is up. -/
def isStarted (worker : Worker) : Bool := worker.channel.isSome

/-- What the answer to the first question says about the start. -/
def readiness (timeoutMillis : Nat) : Reply → Except InterpreterError Unit
  | .response response => response.toReady
  | .closed => .error (.initFailed "interpreter exited during init")
  | .elapsed =>
      .error (.initFailed ("no ready message within " ++ toString timeoutMillis ++ "ms"))
  | .failed error => .error (.initFailed error.message)

/-- Launches the program and asks it to get ready; one that does not is stopped. -/
def start (worker : Worker) : Except InterpreterError Unit × Worker :=
  if worker.isStarted then (.ok (), worker)
  else match worker.spawn with
    | .fails reason =>
        (.error (.initFailed
          ("could not spawn " ++ worker.launch.program ++ ": " ++ reason)), worker)
    | .runs actions =>
        let timeout := worker.launch.initTimeoutMillis
        let (reply, channel) := (Channel.start actions).exchange .init timeout
        match readiness timeout reply with
        | .ok () => (.ok (), { worker with channel := some channel })
        | .error error => (.error error, worker)

/-- What the answer to a run says: its trace or what went wrong, and whether the connection can
still be used. -/
def verdict (timeoutMillis : Nat) : Reply → Except InterpreterError Payload × Bool
  | .response response => (response.toPayload, true)
  | .closed => (.error (.runFailed "interpreter exited before replying"), false)
  | .elapsed =>
      (.error (.runFailed ("no result within " ++ toString timeoutMillis ++ "ms")), false)
  | .failed (.broken reason) => (.error (.runFailed reason), false)
  | .failed error => (.error error, true)

/-- Asks for a run. -/
def run (request : RunRequest) (worker : Worker) : Except InterpreterError Payload × Worker :=
  match worker.channel with
  | none => (.error .notStarted, worker)
  | some channel =>
      let timeout := worker.launch.runTimeoutMillis
      let (reply, channel) := channel.exchange (.run request) timeout
      let (result, usable) := verdict timeout reply
      (result, { worker with channel := if usable then some channel else none })

/-- Stops the program. -/
def stop (worker : Worker) : Worker := { worker with channel := none }

/-- An interpreter in a process as a backend. -/
def backend : Backend Worker := ⟨start, run, stop, isStarted⟩

end Worker

/-! ### Prepared answers -/

/-- An interpreter that gives prepared answers, line by line. -/
structure Prompter where
  /-- The lines that have not been used. -/
  lines : List String
  /-- Whether it is up. -/
  started : Bool
  deriving DecidableEq

namespace Prompter

/-- The next line, an empty one when all have been used. -/
def next (prompter : Prompter) : String × Prompter :=
  match prompter.lines with
  | [] => ("", prompter)
  | line :: rest => (line, { prompter with lines := rest })

/-- Takes the next line as the answer to a start. -/
def start (prompter : Prompter) : Except InterpreterError Unit × Prompter :=
  if prompter.started then (.ok (), prompter)
  else
    let (line, prompter) := prompter.next
    match Response.parse line >>= Response.toReady with
    | .ok () => (.ok (), { prompter with started := true })
    | .error error => (.error error, prompter)

/-- Takes the next line as the answer to a run. -/
def run (_ : RunRequest) (prompter : Prompter) : Except InterpreterError Payload × Prompter :=
  let (line, prompter) := prompter.next
  (Response.parse line >>= Response.toPayload, prompter)

/-- Shuts it down. -/
def stop (prompter : Prompter) : Prompter := { prompter with started := false }

/-- Prepared answers as a backend. -/
def backend : Backend Prompter := ⟨start, run, stop, started⟩

end Prompter

end TracePlayer
