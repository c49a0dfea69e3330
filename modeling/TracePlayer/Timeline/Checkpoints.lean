/-
**Checkpoints.**

States kept at regular places of a log, so that a move backwards need not start from the
beginning.

Main definitions:

* `Checkpoints`: the states kept so far, ordered by the number of events applied;
* `Checkpoints.record`: keeps a state that lies on the grid;
* `Checkpoints.nearest?`: the latest state kept at or before a place.
-/
import TracePlayer.Program.State

set_option autoImplicit false

namespace TracePlayer

/-- States kept at regular places of a log. -/
structure Checkpoints where
  /-- The distance between two places; with `0` nothing is kept. -/
  interval : Nat
  /-- The states, ordered by the number of events applied. -/
  states : List State

namespace Checkpoints

/-- No states, at the given distance. -/
def empty (interval : Nat) : Checkpoints := ⟨interval, []⟩

/-- The distance used when none is asked for. -/
def defaultInterval : Nat := 256

/-- Whether a number of applied events is a place of the grid. -/
def onGrid (interval applied : Nat) : Bool :=
  interval != 0 && applied != 0 && applied % interval == 0

/-- The places at which a state is kept. -/
def positions (checkpoints : Checkpoints) : List Nat := checkpoints.states.map State.applied

/-- Whether a state will be kept: it lies on the grid and its place is free. -/
def accepts (checkpoints : Checkpoints) (state : State) : Bool :=
  onGrid checkpoints.interval state.applied && !checkpoints.positions.contains state.applied

/-- Puts a state into an ordered list. -/
def insertState (state : State) : List State → List State
  | [] => [state]
  | head :: rest =>
      if state.applied < head.applied then state :: head :: rest
      else head :: insertState state rest

/-- Keeps a state if it lies on the grid and its place is free. -/
def record (checkpoints : Checkpoints) (state : State) : Checkpoints :=
  if checkpoints.accepts state then
    { checkpoints with states := insertState state checkpoints.states }
  else checkpoints

/-- The latest state with at most `applied` events. -/
def nearest? (checkpoints : Checkpoints) (applied : Nat) : Option State :=
  (checkpoints.states.filter fun state => decide (state.applied ≤ applied)).getLast?

/-- The same grid without any states. -/
def clear (checkpoints : Checkpoints) : Checkpoints := empty checkpoints.interval

/-- The number of states kept. -/
def size (checkpoints : Checkpoints) : Nat := checkpoints.states.length

end Checkpoints

end TracePlayer
