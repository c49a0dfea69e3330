/-
**The connection to an interpreter.**

Main definitions:

* `LineBuffer`: bytes that have arrived, cut into lines;
* `Channel`: the program at the other end and what it has written;
* `Channel.send`, `Channel.receive`, `Channel.exchange`: a question, the next answer that has been
  written, and both together.
-/
import TracePlayer.Interpreter.Message
import TracePlayer.Interpreter.Peer
import TracePlayer.Text.Pad

set_option autoImplicit false

namespace TracePlayer

/-! ### Lines -/

/-- Bytes that have arrived, cut into lines. -/
structure LineBuffer where
  /-- The lines that have ended, without their newlines. -/
  lines : List (List UInt8)
  /-- The bytes of a line that has not ended. -/
  rest : List UInt8
  deriving DecidableEq

namespace LineBuffer

/-- Nothing has arrived. -/
def empty : LineBuffer := ⟨[], []⟩

/-- The byte that ends a line. -/
def newline : UInt8 := 10

/-- Cuts bytes at every newline. -/
def cut : List UInt8 → LineBuffer
  | [] => empty
  | byte :: bytes =>
      let buffer := cut bytes
      if byte = newline then ⟨[] :: buffer.lines, buffer.rest⟩
      else match buffer.lines with
        | [] => ⟨[], byte :: buffer.rest⟩
        | line :: lines => ⟨(byte :: line) :: lines, buffer.rest⟩

/-- A line that has ended, without the carriage return before its newline. -/
def withoutReturn (line : List UInt8) : List UInt8 :=
  if line.getLast? = some 13 then line.dropLast else line

/-- More bytes. -/
def push (buffer : LineBuffer) (bytes : List UInt8) : LineBuffer :=
  let more := cut (buffer.rest ++ bytes)
  ⟨buffer.lines ++ more.lines, more.rest⟩

end LineBuffer

/-! ### The connection -/

/-- The connection to an interpreter. -/
structure Channel where
  /-- The program at the other end. -/
  peer : Peer
  /-- What it has written and nobody has read. -/
  unread : LineBuffer
  deriving DecidableEq

/-- What comes of waiting for an answer. -/
inductive Reply where
  /-- An answer. -/
  | response (response : Response)
  /-- The program has ended without one. -/
  | closed
  /-- The time is up. -/
  | elapsed
  /-- A line that is no answer, or no connection. -/
  | failed (error : InterpreterError)

namespace Channel

/-- A connection to a program that has not done anything yet. -/
def start (actions : List Peer.Action) : Channel := ⟨.start actions, .empty⟩

/-- The words for a line that nobody takes. -/
def brokenPipeText : String := "Broken pipe (os error 32)"

/-- Sends a question, if the other end still takes lines. -/
def send (channel : Channel) (request : Request) : Except InterpreterError Channel :=
  if channel.peer.takesInput then
    .ok { channel with peer := channel.peer.take (trimNewlines request.line) }
  else .error (.broken brokenPipeText)

/-- Lets the other end act until it waits. -/
def advance (channel : Channel) : Channel :=
  let (bytes, peer) := channel.peer.advance
  ⟨peer, channel.unread.push bytes⟩

/-- The answer of one line; nothing for a line of blanks. -/
def readLine (line : List UInt8) : Option Reply :=
  match decodeUtf8 line with
  | .error fault => some (.failed (.broken fault.message))
  | .ok text =>
      if (trimBlanks text).isEmpty then none
      else match Response.parse text with
        | .ok response => some (.response response)
        | .error error => some (.failed error)

/-- The first answer among some lines, and the lines after it. -/
def readLines : List (List UInt8) → Option (Reply × List (List UInt8))
  | [] => none
  | line :: rest =>
      match readLine (LineBuffer.withoutReturn line) with
      | some reply => some (reply, rest)
      | none => readLines rest

/-- The answer when no line is left that has ended: when the program has ended too, what it wrote
last counts as a line. -/
def readRest (ended : Bool) (rest : List UInt8) : Reply :=
  if !ended then .elapsed
  else if rest.isEmpty then .closed
  else (readLine rest).getD .closed

/-- **The next answer** among all that has been written. -/
def receive (channel : Channel) : Reply × Channel :=
  match readLines channel.unread.lines with
  | some (reply, lines) =>
      (reply, { channel with unread := { channel.unread with lines := lines } })
  | none =>
      let reply := readRest channel.peer.ended channel.unread.rest
      let rest := if channel.peer.ended then [] else channel.unread.rest
      (reply, { channel with unread := ⟨[], rest⟩ })

/-- **A question and the next answer.**  An interpreter that is given no time does not act. -/
def exchange (channel : Channel) (request : Request) (timeoutMillis : Nat) : Reply × Channel :=
  match channel.send request with
  | .error error => (.failed error, channel)
  | .ok channel => (if timeoutMillis = 0 then channel else channel.advance).receive

end Channel

end TracePlayer
