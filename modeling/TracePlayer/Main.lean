/-
**The command line program.**

Main definitions:

* `main`: reads the files that a command line names, carries it out, and prints what it prints at
  the times at which it is due.
-/
import TracePlayer.Command.Execution

set_option autoImplicit false

namespace TracePlayer.Terminal

/-- The files that can be read, with their texts. -/
def readFiles (paths : List String) : IO (List (String × String)) :=
  paths.filterMapM fun (path : String) => do
    try
      let text ← IO.FS.readFile path
      return some (path, text)
    catch _ => return none

/-- Whether a file can be opened for more text; an empty one is made if there is none. -/
def canAppend (path : String) : IO Bool := do
  try
    let _ ← IO.FS.Handle.mk path .append
    return true
  catch _ => return false

/-- What a command line finds around it: no interpreter can be launched from here. -/
def surroundings (files : List (String × String)) (writable : List String) (run : RunId) :
    Surroundings where
  read := fun path => files.lookup path
  canWrite := fun path => writable.contains path
  spawn := fun _ => .fails "launching programs is not supported"
  run := run

/-- Prints texts when they are due, counted from `now`. -/
def printAll (output : IO.FS.Stream) : Nat → List (Nat × String) → IO Unit
  | _, [] => return
  | now, (due, text) :: rest => do
      if now < due then IO.sleep (UInt32.ofNat ((due - now) / Delta.perMilli))
      output.putStr text
      output.flush
      printAll output (Nat.max now due) rest

/-- Saves what is to be saved; whether that has worked. -/
def save : Option (String × String) → IO Bool
  | none => return true
  | some (path, text) => do
      try
        IO.FS.writeFile path text
        return true
      catch _ => return false

/-- Carries out a command line and gives its exit code. -/
def carryOut (arguments : List String) : IO UInt32 := do
  let (inputs, outputs) := match Invocation.parse arguments with
    | .ok invocation => (invocation.inputs, invocation.outputs)
    | .error _ => ([], [])
  let files ← readFiles inputs
  let writable ← outputs.filterM canAppend
  let number ← IO.rand 0 (UInt32.size - 1)
  let outcome := execute (surroundings files writable ⟨toString number⟩) arguments
  let saved ← save outcome.saved
  printAll (← IO.getStdout) 0 outcome.output
  if let some fault := outcome.fault then IO.eprintln ("Error: " ++ fault)
  return if saved then UInt32.ofNat outcome.code else 1

end TracePlayer.Terminal

/-- The command line program. -/
def main (arguments : List String) : IO UInt32 := TracePlayer.Terminal.carryOut arguments
