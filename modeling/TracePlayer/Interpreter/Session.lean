/-
**A session with an interpreter.**

Many clients may call one interpreter at the same time.  One of them at a time has it; a run that
is called while another one is under way is turned away and does not wait.  A session remembers the
trace of a successful run, and a failed one does not make it forget.

Main definitions:

* `Session`, `Session.Phase`: the interpreter, the clients and how far their calls have come;
* `Session.Event`, `Session.step`: what can happen next, and what it does;
* `Session.perform`: a call that nothing interrupts.
-/
import TracePlayer.Interpreter.Worker
import TracePlayer.Trace.Log

set_option autoImplicit false

namespace TracePlayer

namespace Session

/-- The number of a client. -/
abbrev Client := Nat

/-- What a client can call for. -/
inductive Call where
  | start
  | stop
  | run (request : RunRequest)
  deriving DecidableEq

/-- Whether a call is for a run. -/
def Call.isRun : Call → Bool
  | run _ => true
  | _ => false

/-- How far the call of a client has come. -/
inductive Phase where
  /-- It has made none. -/
  | idle
  /-- It waits for the interpreter. -/
  | waiting (call : Call)
  /-- It has the interpreter. -/
  | inside (call : Call)
  /-- Its run is over, and it still counts as under way. -/
  | returning (result : Except InterpreterError Payload)
  /-- Its run has succeeded, and the trace has not been stored. -/
  | storing (payload : Payload)

/-- Whether a run of the client is under way. -/
def Phase.holdsRun : Phase → Bool
  | waiting call | inside call => call.isRun
  | returning _ => true
  | _ => false

/-- What a client is told at the end of its call. -/
inductive Answer where
  /-- A start or a stop has succeeded. -/
  | done
  /-- A run has succeeded. -/
  | trace (log : Log)
  /-- The call has failed. -/
  | failed (error : InterpreterError)

/-- What can happen next. -/
inductive Event (Interpreter : Type) where
  /-- A client calls. -/
  | call (client : Client) (call : Call)
  /-- A client that waits gets the interpreter. -/
  | enter (client : Client)
  /-- The interpreter has finished with a client. -/
  | leave (client : Client)
  /-- The run of a client no longer counts as under way. -/
  | release (client : Client)
  /-- A client stores the trace of its run under a name. -/
  | store (client : Client) (run : RunId)
  /-- A client gives up its call, and leaves the interpreter as it may be. -/
  | abandon (client : Client) (interpreter : Interpreter)

end Session

/-- A session with an interpreter. -/
structure Session (Interpreter : Type) where
  /-- The interpreter. -/
  interpreter : Interpreter
  /-- Whether a run is under way. -/
  busy : Bool
  /-- The client that has the interpreter. -/
  holder : Option Session.Client
  /-- How far the calls have come. -/
  phase : Session.Client → Session.Phase
  /-- The trace stored last. -/
  lastTrace : Option Log

namespace Session

variable {Interpreter : Type}

/-- A session without any calls. -/
def fresh (interpreter : Interpreter) : Session Interpreter :=
  ⟨interpreter, false, none, fun _ => .idle, none⟩

/-- The session with a client in another phase. -/
def setPhase (session : Session Interpreter) (client : Client) (phase : Phase) :
    Session Interpreter :=
  { session with phase := fun other => if other = client then phase else session.phase other }

/-- A client calls; a run is turned away while another one is under way. -/
def call (session : Session Interpreter) (client : Client) (call : Call) :
    Option Answer × Session Interpreter :=
  match session.phase client with
  | .idle =>
      if call.isRun then
        if session.busy then (some (.failed .busy), session)
        else (none, { session with busy := true }.setPhase client (.waiting call))
      else (none, session.setPhase client (.waiting call))
  | _ => (none, session)

/-- A client that waits gets the interpreter if nobody has it; a run needs one that is up. -/
def enter (backend : Backend Interpreter) (session : Session Interpreter) (client : Client) :
    Session Interpreter :=
  match session.phase client, session.holder with
  | .waiting call, none =>
      if call.isRun && !backend.isStarted session.interpreter then
        session.setPhase client (.returning (.error .notStarted))
      else { session with holder := some client }.setPhase client (.inside call)
  | _, _ => session

/-- The interpreter has finished with a client. -/
def leave (backend : Backend Interpreter) (session : Session Interpreter) (client : Client) :
    Option Answer × Session Interpreter :=
  match session.phase client with
  | .inside .start =>
      let (result, interpreter) := backend.start session.interpreter
      let answer := match result with
        | .ok () => Answer.done
        | .error error => .failed error
      (some answer,
        { session with interpreter := interpreter, holder := none }.setPhase client .idle)
  | .inside .stop =>
      (some .done,
        { session with
          interpreter := backend.stop session.interpreter
          holder := none }.setPhase client .idle)
  | .inside (.run request) =>
      let (result, interpreter) := backend.run request session.interpreter
      (none,
        { session with interpreter := interpreter, holder := none }.setPhase client
          (.returning result))
  | _ => (none, session)

/-- The run of a client no longer counts as under way; a trace has yet to be stored. -/
def release (session : Session Interpreter) (client : Client) :
    Option Answer × Session Interpreter :=
  match session.phase client with
  | .returning (.ok payload) =>
      (none, { session with busy := false }.setPhase client (.storing payload))
  | .returning (.error error) =>
      (some (.failed error), { session with busy := false }.setPhase client .idle)
  | _ => (none, session)

/-- A client stores the trace of its run. -/
def store (session : Session Interpreter) (client : Client) (run : RunId) :
    Option Answer × Session Interpreter :=
  match session.phase client with
  | .storing payload =>
      let log := Log.ofPayload run payload
      (some (.trace log), { session with lastTrace := some log }.setPhase client .idle)
  | _ => (none, session)

/-- A client gives up its call and all that it holds. -/
def abandon (session : Session Interpreter) (client : Client) (interpreter : Interpreter) :
    Session Interpreter :=
  match session.phase client with
  | .idle => session
  | .waiting call =>
      { session with busy := session.busy && !call.isRun }.setPhase client .idle
  | .inside call =>
      { session with
        interpreter := interpreter
        holder := none
        busy := session.busy && !call.isRun }.setPhase client .idle
  | .returning _ => { session with busy := false }.setPhase client .idle
  | .storing _ => session.setPhase client .idle

/-- **What happens next**, and what a client is told. -/
def step (backend : Backend Interpreter) (session : Session Interpreter) :
    Event Interpreter → Option Answer × Session Interpreter
  | .call client call => session.call client call
  | .enter client => (none, session.enter backend client)
  | .leave client => session.leave backend client
  | .release client => session.release client
  | .store client run => session.store client run
  | .abandon client interpreter => (none, session.abandon client interpreter)

/-- The first answer that some events lead to, and the session after all of them. -/
def steps (backend : Backend Interpreter) (session : Session Interpreter) :
    List (Event Interpreter) → Option Answer × Session Interpreter
  | [] => (none, session)
  | event :: rest =>
      let (first, session) := session.step backend event
      let (later, session) := session.steps backend rest
      (first.or later, session)

/-- **A call that nothing interrupts.** -/
def perform (backend : Backend Interpreter) (session : Session Interpreter) (client : Client)
    (call : Call) (run : RunId) : Option Answer × Session Interpreter :=
  session.steps backend
    [.call client call, .enter client, .leave client, .release client, .store client run]

end Session

end TracePlayer
