/-
**Messages to and from an interpreter.**

A message is one line of JSON whose `type` says what it is.

Main definitions:

* `Message.field?`, `Message.ofRaw?`: the fields of a message, and its two forms;
* `RunRequest`, `Request`, `Request.line`: what the interpreter is asked, and the line for it;
* `Request.parse?`: the line read back;
* `Response`, `Response.parse`: what the interpreter answers, and the line read back;
* `InterpreterError`, `InterpreterError.message`: what can go wrong;
* `Response.toReady`, `Response.toPayload`: an answer to each of the two questions.
-/
import TracePlayer.Json.Writer
import TracePlayer.Text.Blank
import TracePlayer.Trace.Payload

set_option autoImplicit false

namespace TracePlayer

/-! ### Forms of a message -/

namespace Message

/-- The only value of a field, and nothing if it is missing; a field given twice is refused. -/
def field? (name : String) (entries : List (String × Json)) : Option (Option Json) :=
  match entries.filter fun entry => entry.1 == name with
  | [] => some none
  | [(_, value)] => some (some value)
  | _ => none

/-- The message that a raw form stands for: the entries of an object, in any order, or the items of
an array, first the type. -/
def ofRaw? {α : Type} (ofEntries? : List (String × Json) → Option α)
    (ofItems? : List Json → Option α) : Json.Raw → Option α
  | .obj fields => (Json.Raw.pairs? (Json.maxDepth - 1) fields).bind ofEntries?
  | .arr items => (Json.Raw.values? (Json.maxDepth - 1) items).bind ofItems?
  | _ => none

end Message

/-! ### Questions -/

/-- A program to run, and the lines it will read. -/
structure RunRequest where
  /-- The source text of the program. -/
  source : String
  /-- The lines handed to the program, in order. -/
  stdinLines : List String
  deriving DecidableEq

/-- A program with its input as one text; an empty text has no lines. -/
def RunRequest.ofInput (source stdin : String) : RunRequest :=
  ⟨source, if stdin.isEmpty then [] else Lines.split stdin⟩

namespace RunRequest

/-- The strings of an array of strings. -/
def texts? : Json → Option (List String)
  | .arr items => items.mapM fun item => item.toText.toOption
  | _ => none

/-- The program and its lines that two values stand for. -/
def ofValues? (source stdinLines : Json) : Option RunRequest := do
  let source ← source.toText.toOption
  let stdinLines ← texts? stdinLines
  return ⟨source, stdinLines⟩

/-- The program and its lines that the entries of an object stand for; both have to be there, and
further entries are passed over. -/
def ofEntries? (entries : List (String × Json)) : Option RunRequest := do
  let source ← (← Message.field? "sourceCode" entries)
  let stdinLines ← (← Message.field? "stdinLines" entries)
  ofValues? source stdinLines

end RunRequest

/-- What an interpreter is asked. -/
inductive Request where
  /-- To get ready. -/
  | init
  /-- To run a program. -/
  | run (request : RunRequest)
  deriving DecidableEq

namespace Request

/-- A question as a JSON object. -/
def encode : Request → Json
  | init => .obj [("type", .str "init")]
  | run request =>
      .obj [("type", .str "run"), ("sourceCode", .str request.source),
        ("stdinLines", .arr (request.stdinLines.map .str))]

/-- The line for a question, with its newline. -/
def line (request : Request) : String := request.encode.compress ++ "\n"

/-- The question that the entries of an object stand for. -/
def ofEntries? (entries : List (String × Json)) : Option Request :=
  match Message.field? "type" entries with
  | some (some (.str "init")) => some init
  | some (some (.str "run")) => (RunRequest.ofEntries? entries).map run
  | _ => none

/-- The question that the items of an array stand for. -/
def ofItems? : List Json → Option Request
  | [.str "init"] => some init
  | [.str "run", source, stdinLines] => (RunRequest.ofValues? source stdinLines).map run
  | _ => none

/-- The question that a line stands for, with or without its newline. -/
def parse? (line : String) : Option Request :=
  (Json.Raw.read? line).bind (Message.ofRaw? ofEntries? ofItems?)

end Request

/-! ### Errors -/

/-- What can go wrong with an interpreter. -/
inductive InterpreterError where
  /-- It did not get ready. -/
  | initFailed (reason : String)
  /-- It runs another program. -/
  | busy
  /-- The program failed. -/
  | runFailed (message : String)
  /-- The answer makes no sense. -/
  | malformed (reason : String)
  /-- It has not been started. -/
  | notStarted
  /-- The connection failed. -/
  | broken (reason : String)
  deriving DecidableEq

namespace InterpreterError

/-- The words for an error. -/
def message : InterpreterError → String
  | initFailed reason => "Interpreter failed to start: " ++ reason
  | busy => "A run is already in progress. Please wait."
  | runFailed message => "Run failed: " ++ message
  | malformed reason => "Malformed trace: " ++ reason
  | notStarted => "Interpreter not initialized yet. Call start first."
  | broken reason => "Interpreter I/O error: " ++ reason

/-- Whether a run has failed, as far as its user can tell. -/
def isRunFailure : InterpreterError → Bool
  | runFailed _ | malformed _ => true
  | _ => false

/-- Whether the same call may succeed later. -/
def isRetryable : InterpreterError → Bool
  | busy => true
  | _ => false

end InterpreterError

/-! ### Answers -/

/-- What an interpreter answers. -/
inductive Response where
  /-- It is ready. -/
  | ready
  /-- A run has ended with a trace. -/
  | trace (payload : Json)
  /-- Something failed. -/
  | error (message : String)

namespace Response

/-- The answer of a given type, made from a lookup of its fields. -/
def ofFields? (type : String) (field? : String → Option (Option Json)) : Option Response :=
  match type with
  | "ready" | "initialized" => some ready
  | "trace" => (field? "payload").join.map trace
  | "error" =>
      match field? "message" with
      | some none => some (error "")
      | some (some (.str message)) => some (error message)
      | _ => none
  | _ => none

/-- The answer that the entries of an object stand for; further entries are passed over. -/
def ofEntries? (entries : List (String × Json)) : Option Response :=
  match Message.field? "type" entries with
  | some (some (.str type)) => ofFields? type fun name => Message.field? name entries
  | _ => none

/-- The answer that the items of an array stand for: its type, and its field if it has one. -/
def ofItems? : List Json → Option Response
  | .str type :: fields =>
      match type, fields with
      | _, [] => ofFields? type fun _ => some none
      | "trace", [payload] => some (trace payload)
      | "error", [.str message] => some (error message)
      | _, _ => none
  | _ => none

/-- The words for a line that is no answer. -/
def unreadableText : String := "unreadable interpreter response"

/-- The answer that a line stands for; blanks at its ends do not count. -/
def parse (line : String) : Except InterpreterError Response :=
  match (Json.Raw.read? (trimBlanks line)).bind (Message.ofRaw? ofEntries? ofItems?) with
  | some response => .ok response
  | none => .error (.malformed unreadableText)

/-- The answer to the question to get ready. -/
def toReady : Response → Except InterpreterError Unit
  | ready => .ok ()
  | error message => .error (.initFailed message)
  | trace _ => .error (.initFailed "expected ready, got a trace")

/-- The answer to the question to run a program. -/
def toPayload : Response → Except InterpreterError Payload
  | trace payload =>
      match Payload.decode payload with
      | .ok payload => .ok payload
      | .error cause => .error (.malformed cause.message)
  | error message => .error (.runFailed message)
  | ready => .error (.malformed "expected a trace, got a ready message")

end Response

end TracePlayer
