/-
**The commands and their options.**

Main definitions:

* `ValueKind`, `ValueKind.accepts`: what the value of an option may be;
* `OptionSpec`, `CommandSpec`: an option, and a command with its operand and its options;
* `CommandSpec.root`, `CommandSpec.all`: the options in front of a command, and the commands.
-/
import TracePlayer.Binary64.Decimal

set_option autoImplicit false

namespace TracePlayer

/-- What the value of an option may be. -/
inductive ValueKind where
  /-- The path of a file. -/
  | path
  /-- Any text. -/
  | text
  /-- A whole number of 64 bits. -/
  | integer
  /-- A number. -/
  | real
  /-- One of some words, each with its meaning. -/
  | word (words : List (String × String)) (standard : String)
  deriving DecidableEq

/-- A whole number of 64 bits with a sign. -/
def parseStep? (text : String) : Option Int :=
  (parseInteger? text).filter fun n =>
    decide (Int64.minValue.toInt ≤ n) && decide (n ≤ Int64.maxValue.toInt)

/-- Whether a text is a value of a kind. -/
def ValueKind.accepts (text : String) : ValueKind → Bool
  | path => !text.isEmpty
  | ValueKind.text => true
  | integer => (parseStep? text).isSome
  | real => (Binary64.parse? text).isSome
  | word words _ => words.any fun entry => entry.1 == text

/-- An option. -/
structure OptionSpec where
  /-- The name, which follows two hyphens. -/
  name : String
  /-- What it is for. -/
  help : String
  /-- The word for its value and the kind of it; nothing for a switch. -/
  value : Option (String × ValueKind)
  deriving DecidableEq

/-- Whether a value of the option may be a negative number. -/
def OptionSpec.allowsNegative (option : OptionSpec) : Bool :=
  match option.value with
  | some (_, .integer) => true
  | _ => false

/-- A command. -/
structure CommandSpec where
  /-- Its name. -/
  name : String
  /-- What it does. -/
  about : String
  /-- The word for the file it works on, and what the file holds. -/
  operand : Option (String × String)
  /-- Its options, in the order in which they are listed. -/
  options : List OptionSpec
  deriving DecidableEq

/-! ### Options -/

namespace OptionSpec

/-- The file with the settings. -/
def config : OptionSpec := ⟨"config", "JSON config file", some ("CONFIG", .path)⟩

/-- How much is logged. -/
def logLevel : OptionSpec :=
  ⟨"log-level", "Log level for tracescope crates (overrides RUST_LOG)",
    some ("LOG_LEVEL", .text)⟩

/-- Where the log goes. -/
def logFile : OptionSpec :=
  ⟨"log-file", "Write logs to this file", some ("LOG_FILE", .path)⟩

/-- Playback as text. -/
def headless : OptionSpec := ⟨"headless", "Print steps instead of opening the player", none⟩

/-- The speed of a playback. -/
def speed : OptionSpec := ⟨"speed", "Starting speed multiplier", some ("SPEED", .real)⟩

/-- Playback from the start. -/
def autoplay : OptionSpec := ⟨"autoplay", "Start playing immediately", none⟩

/-- The step to show. -/
def step : OptionSpec :=
  ⟨"step", "Step index (default: last; out of range is clamped)", some ("STEP", .integer)⟩

/-- The form of a report. -/
def format : OptionSpec :=
  ⟨"format", "Output format",
    some ("FORMAT", .word [("text", "Human readable"), ("json", "JSON document")] "text")⟩

/-- The input of a program. -/
def stdin : OptionSpec :=
  ⟨"stdin", "File whose lines are fed to the program's input calls", some ("STDIN", .path)⟩

/-- Where the trace is kept. -/
def save : OptionSpec := ⟨"save", "Save the trace to this file", some ("SAVE", .path)⟩

/-- A summary in place of the viewer. -/
def noPlay : OptionSpec := ⟨"no-play", "Print a summary instead of opening the player", none⟩

/-- The interpreter. -/
def interpreter : OptionSpec :=
  ⟨"interpreter", "Interpreter program (overrides the config file)",
    some ("INTERPRETER", .text)⟩

end OptionSpec

/-! ### Commands -/

namespace CommandSpec

/-- What stands in front of a command. -/
def root : CommandSpec where
  name := "tracescope"
  about := "tracescope - step through recorded program executions"
  operand := none
  options := [.config, .logLevel, .logFile]

/-- Plays a trace. -/
def play : CommandSpec where
  name := "play"
  about := "Play a trace file"
  operand := some ("TRACE", "Trace file (JSON)")
  options := [.config, .headless, .logLevel, .speed, .autoplay, .logFile]

/-- Shows a state. -/
def inspect : CommandSpec where
  name := "inspect"
  about := "Print the reconstructed state at a step"
  operand := some ("TRACE", "Trace file (JSON)")
  options := [.config, .step, .format, .logLevel, .logFile]

/-- Shows a call forest. -/
def tree : CommandSpec where
  name := "tree"
  about := "Print the call tree at a step"
  operand := some ("TRACE", "Trace file (JSON)")
  options := [.config, .step, .logLevel, .logFile]

/-- Runs a program. -/
def run : CommandSpec where
  name := "run"
  about := "Run a program through the interpreter and play its trace"
  operand := some ("SOURCE", "Program source file")
  options := [.config, .stdin, .logLevel, .save, .logFile, .noPlay, .interpreter]

/-- The commands. -/
def all : List CommandSpec := [play, inspect, tree, run]

/-- The command of a name. -/
def ofName? (name : String) : Option CommandSpec := all.find? fun command => command.name == name

/-- The option of a name. -/
def option? (command : CommandSpec) (name : String) : Option OptionSpec :=
  command.options.find? fun option => option.name == name

end CommandSpec

end TracePlayer
