/-
**What a command line asks for.**

Main definitions:

* `Command`, `Invocation`: a command with its options, and with the options of the root;
* `Invocation.parse`: the invocation that a command line stands for.
-/
import TracePlayer.Command.Usage

set_option autoImplicit false

namespace TracePlayer

/-- The form of a report. -/
inductive ReportForm where
  | text
  | json
  deriving DecidableEq

/-- A command with its options. -/
inductive Command where
  /-- Plays a trace, as text or in the viewer. -/
  | play (trace : String) (headless : Bool) (speed : Option Binary64) (autoplay : Bool)
  /-- Shows the state after a step. -/
  | inspect (trace : String) (step : Option Int) (form : ReportForm)
  /-- Shows the call forest after a step. -/
  | tree (trace : String) (step : Option Int)
  /-- Runs a program and plays its trace. -/
  | run (source : String) (stdin save : Option String) (summaryOnly : Bool)
      (interpreter : Option String)
  deriving DecidableEq

/-- A command with the options of the root. -/
structure Invocation where
  /-- The file with the settings. -/
  config : Option String
  /-- How much is logged. -/
  logLevel : Option String
  /-- Where the log goes. -/
  logFile : Option String
  /-- The command. -/
  command : Command
  deriving DecidableEq

/-- Whether the command takes the whole screen. -/
def Command.fullScreen : Command → Bool
  | play _ headless _ _ => !headless
  | run _ _ _ summaryOnly _ => !summaryOnly
  | _ => false

namespace Invocation

/-- The command of a name, with the options given behind it. -/
def commandOf (command : CommandSpec) (given : Matches) (operand : String) : Command :=
  let step := (given.value? .step).bind parseStep?
  if command = .play then
    .play operand (given.has .headless) ((given.value? .speed).bind Binary64.parse?)
      (given.has .autoplay)
  else if command = .inspect then
    .inspect operand step (if given.value? .format = some "json" then .json else .text)
  else if command = .tree then .tree operand step
  else
    .run operand (given.value? .stdin) (given.value? .save) (given.has .noPlay)
      (given.value? .interpreter)

/-- **The invocation that a command line stands for.**  An option of the root counts as it is given
behind the command, if it is given there. -/
def parse (arguments : List String) : Except Halt Invocation :=
  (splitArguments arguments).map fun (command, front, given, operand) =>
    let global (option : OptionSpec) := (given.value? option).or (front.value? option)
    ⟨global .config, global .logLevel, global .logFile, commandOf command given operand⟩

/-- The files that an invocation may read. -/
def inputs (invocation : Invocation) : List String :=
  invocation.config.toList ++ match invocation.command with
    | .play trace _ _ _ | .inspect trace _ _ | .tree trace _ => [trace]
    | .run source stdin _ _ _ => source :: stdin.toList

/-- The files that an invocation may write. -/
def outputs (invocation : Invocation) : List String :=
  invocation.logFile.toList ++ match invocation.command with
    | .run _ _ save _ _ => save.toList
    | _ => []

end Invocation

end TracePlayer
