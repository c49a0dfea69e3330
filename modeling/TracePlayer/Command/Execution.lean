/-
**Carrying out a command line.**

Main definitions:

* `Surroundings`: the files that can be read and written, and the programs that can be launched;
* `Outcome`: what a command prints, what it saves and how it ends;
* `Invocation.execute`, `execute`: the outcome of an invocation and of a command line.
-/
import TracePlayer.Command.Invocation
import TracePlayer.Interpreter.Recording
import TracePlayer.Playback.Transcript
import TracePlayer.Report.Outline
import TracePlayer.Settings.Reader

set_option autoImplicit false

namespace TracePlayer

/-- What a command finds around it. -/
structure Surroundings where
  /-- The text of a file, if it can be read. -/
  read : String → Option String
  /-- Whether a file can be written. -/
  canWrite : String → Bool
  /-- What comes of launching an interpreter. -/
  spawn : Launch → Spawn
  /-- The name of the run. -/
  run : RunId

/-- How a command ends. -/
structure Outcome where
  /-- The texts it prints, each with the time at which it is due, in nanoseconds. -/
  output : List (Nat × String)
  /-- The file it writes and the text for it. -/
  saved : Option (String × String)
  /-- What went wrong. -/
  fault : Option String
  /-- The exit code. -/
  code : Nat
  deriving DecidableEq

namespace Outcome

/-- A command that prints a text and succeeds. -/
def print (text : String) : Outcome := ⟨[(0, text)], none, none, 0⟩

/-- A command that fails. -/
def fail (fault : String) : Outcome := ⟨[], none, some fault, 1⟩

/-- All that a command prints. -/
def text (outcome : Outcome) : String := String.join (outcome.output.map Prod.snd)

end Outcome

/-- The words for a terminal that cannot be used. -/
def noTerminalText : String := "no terminal to draw on"

/-- The log of a trace file, or why there is none. -/
def Surroundings.loadTrace (around : Surroundings) (path : String) : Except String Log :=
  match around.read path with
  | none => .error ("cannot read trace " ++ path)
  | some text =>
      match Payload.parse text with
      | .ok payload => .ok (.ofPayload around.run payload)
      | .error error => .error ("invalid trace " ++ path ++ ": " ++ error.message)

namespace Command

/-- Plays a log as text. -/
def playHeadless (log : Log) (settings : Settings) : Outcome :=
  let showing := Showing.ofPlayback log settings.pacing settings.screen.tickPeriod
  { output := showing.lines.map fun line => (line.1, line.2 ++ "\n")
    saved := none
    fault := if showing.brokeOff then some "playback task did not exit cleanly" else none
    code := 0 }

/-- Runs a program, saves its trace if that is asked for, and prints a summary. -/
def runProgram (around : Surroundings) (settings : Settings) (source : String)
    (stdin save : Option String) (summaryOnly : Bool) : Outcome :=
  match around.read source, (stdin.map around.read).getD (some "") with
  | none, _ => .fail ("cannot read program " ++ source)
  | _, none => .fail ("cannot read input " ++ stdin.getD "")
  | some program, some input =>
      let request := RunRequest.ofInput program input
      match record settings.launch (around.spawn settings.launch) request around.run with
      | .error fault => .fail (fault.message ++ ": " ++ fault.cause.message)
      | .ok log =>
          match save.filter fun path => !around.canWrite path with
          | some path => .fail ("cannot write trace " ++ path)
          | none =>
              let saved := save.map fun path => (path, log.toPayload.document)
              if summaryOnly then ⟨[(0, log.summary)], saved, none, 0⟩
              else ⟨[], saved, some noTerminalText, 1⟩

/-- Carries out a command with some settings. -/
def execute (around : Surroundings) (settings : Settings) : Command → Outcome
  | play trace headless speed _ =>
      match around.loadTrace trace with
      | .error fault => .fail fault
      | .ok log =>
          if headless then playHeadless log (settings.withSpeed speed) else .fail noTerminalText
  | inspect trace step form =>
      match around.loadTrace trace with
      | .error fault => .fail fault
      | .ok log =>
          match form with
          | .text => .print (log.inspection step)
          | .json => .print (log.inspectionDocument step)
  | tree trace step =>
      match around.loadTrace trace with
      | .error fault => .fail fault
      | .ok log => .print (log.outline step)
  | run source stdin save summaryOnly interpreter =>
      runProgram around (settings.withProgram interpreter) source stdin save summaryOnly

end Command

/-- The words for settings that cannot be used. -/
def Settings.Fault.message (path : String) : Settings.Fault → String
  | unreadable => "cannot read config " ++ path
  | malformed => "invalid config " ++ path

/-- **Carries out an invocation**: the log is opened first and the settings are read before
anything else. -/
def Invocation.execute (around : Surroundings) (invocation : Invocation) : Outcome :=
  match invocation.logFile.filter fun path => !around.canWrite path with
  | some path => .fail ("cannot open log file " ++ path)
  | none =>
      match Settings.load (invocation.config.map around.read) with
      | .error fault => .fail (fault.message (invocation.config.getD ""))
      | .ok settings => invocation.command.execute around settings

/-- The outcome of a command line. -/
def execute (around : Surroundings) (arguments : List String) : Outcome :=
  match Invocation.parse arguments with
  | .error halt => ⟨[(0, halt.text)], none, none, halt.code⟩
  | .ok invocation => invocation.execute around

end TracePlayer
