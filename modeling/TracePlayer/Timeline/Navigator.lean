/-
**Moving through a log.**

A navigator answers for the state at any step.  It remembers the last state it produced, the
checkpoints passed on the way and the last change it was asked for; what it answers is always what
a fold from nothing would give.

Main definitions:

* `Navigator`: a log and what is remembered of it;
* `Navigator.stateAt`, `Navigator.stateAt?`: the state after a step;
* `Navigator.changeAt`: what the event of a step changed;
* `Navigator.reconfigure`, `Navigator.load`: another grid, another log.
-/
import TracePlayer.Program.Change
import TracePlayer.Timeline.Checkpoints
import TracePlayer.Trace.Log

set_option autoImplicit false

namespace TracePlayer

/-- How the questions were answered so far. -/
structure Navigator.Stats where
  /-- Questions answered by the state at hand. -/
  hits : Nat := 0
  /-- Events applied in total. -/
  folded : Nat := 0
  /-- Moves backwards. -/
  rewinds : Nat := 0
  /-- Moves backwards that began at a checkpoint. -/
  restores : Nat := 0
  deriving DecidableEq

/-- A log and what is remembered of it. -/
structure Navigator where
  /-- The log. -/
  log : Log
  /-- The last state produced. -/
  current : State
  /-- The states kept on the grid. -/
  checkpoints : Checkpoints
  /-- How the questions were answered so far. -/
  stats : Navigator.Stats
  /-- The last change that was asked for, with the number of events it belongs to. -/
  lastChange : Option (Nat × Change)

namespace Navigator

/-- A navigator at the beginning of a log, with a given distance between checkpoints. -/
def ofLog (log : Log) (interval : Nat) : Navigator where
  log := log
  current := .initial
  checkpoints := .empty interval
  stats := {}
  lastChange := none

/-- The distance between checkpoints. -/
def interval (nav : Navigator) : Nat := nav.checkpoints.interval

/-- Begins again with another distance between checkpoints; the statistics go on. -/
def reconfigure (nav : Navigator) (interval : Nat) : Navigator :=
  { ofLog nav.log interval with stats := nav.stats }

/-- Begins again with another log. -/
def load (nav : Navigator) (log : Log) : Navigator := ofLog log nav.interval

/-! ### Moves -/

/-- Applies one event, and keeps the state if it lies on the grid. -/
def forward (nav : Navigator) (event : Event) : Navigator :=
  let state := nav.current.apply event
  { nav with
    current := state
    checkpoints := nav.checkpoints.record state
    stats := { nav.stats with folded := nav.stats.folded + 1 } }

/-- Goes back to the nearest checkpoint, or to the beginning. -/
def rewind (nav : Navigator) (target : Nat) : Navigator :=
  match nav.checkpoints.nearest? target with
  | some state =>
      { nav with
        current := state
        stats := { nav.stats with
          rewinds := nav.stats.rewinds + 1, restores := nav.stats.restores + 1 } }
  | none =>
      { nav with
        current := .initial
        stats := { nav.stats with rewinds := nav.stats.rewinds + 1 } }

/-- Applies the events that are missing to the first `target` ones. -/
def advance (nav : Navigator) (target : Nat) : Navigator :=
  ((nav.log.events.take target).drop nav.current.applied).foldl forward nav

/-- Moves to the state after `target` events. -/
def moveTo (nav : Navigator) (target : Nat) : Navigator :=
  if target = nav.current.applied then
    { nav with stats := { nav.stats with hits := nav.stats.hits + 1 } }
  else if target < nav.current.applied then (nav.rewind target).advance target
  else nav.advance target

/-! ### Questions -/

/-- The state after a step. -/
def stateAt (nav : Navigator) (step : Int) : State × Navigator :=
  let nav := nav.moveTo (State.eventsThrough nav.log.length step)
  (nav.current, nav)

/-- The state after a step, the initial state if there is none. -/
def stateAt? (nav : Navigator) : Option Int → State × Navigator
  | none => (.initial, nav)
  | some step => nav.stateAt step

/-- Finds out what the event after `index` events changes. -/
def computeChange (nav : Navigator) (index : Nat) (event : Event) : Change × Navigator :=
  let before := nav.moveTo index
  let after := before.moveTo (index + 1)
  let change := Change.ofLastEvent (before.current.frame? event.frame)
    before.current.stdout.utf8ByteSize after.current
  (change, { after with lastChange := some (index + 1, change) })

/-- What the event of a step changed; nothing before the first step. -/
def changeAt (nav : Navigator) (step : Int) : Change × Navigator :=
  match State.eventsThrough nav.log.length step with
  | 0 => (.none, nav)
  | index + 1 =>
      match nav.lastChange with
      | some (place, change) =>
          if place = index + 1 then (change, nav)
          else match nav.log.event? index with
            | some event => nav.computeChange index event
            | none => (.none, nav)
      | none =>
          match nav.log.event? index with
          | some event => nav.computeChange index event
          | none => (.none, nav)

end Navigator

end TracePlayer
