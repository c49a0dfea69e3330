/-
**The player.**

A player moves a cursor over a log against a clock.  It takes at most one step a tick, waits before
each step as long as the next event asks for, stops on the last step, and begins a fresh wait
whenever it is started.  It never reads a clock: the time comes with each tick.

Main definitions:

* `Player`: a log, a cursor and the time from which the current wait counts;
* `Player.Command`, `Player.obey`: what a player can be told;
* `Player.tick`, `TickOutcome`: what a tick does.
-/
import TracePlayer.Playback.Cursor
import TracePlayer.Playback.Pacing
import TracePlayer.Trace.Log

set_option autoImplicit false

namespace TracePlayer

/-- What a tick did. -/
inductive TickOutcome where
  /-- Nothing, because the playback does not run. -/
  | idle
  /-- Nothing, because some time is left to wait. -/
  | waiting (remaining : Nat)
  /-- The cursor moved to a step. -/
  | advanced (step : Nat)
  /-- The playback stopped on the last step. -/
  | finished (step : Nat)
  deriving DecidableEq

/-- Whether the outcome says that the cursor moved. -/
def TickOutcome.moved : TickOutcome → Bool
  | advanced _ => true
  | finished _ => true
  | _ => false

/-- A cursor that moves over a log against a clock. -/
structure Player where
  /-- The log. -/
  log : Log
  /-- The pace. -/
  pacing : Pacing
  /-- The place. -/
  cursor : Cursor
  /-- The time from which the current wait counts; nothing before the first tick. -/
  baseline : Option Nat

namespace Player

/-- A stopped player at the first step. -/
def ofLog (log : Log) (pacing : Pacing) : Player where
  log := log
  pacing := pacing
  cursor := .start (pacing.usable pacing.defaultSpeed)
  baseline := none

/-- The last step of the log. -/
def maxStep (player : Player) : Nat := player.log.maxStep

/-- Whether the cursor is on the last step. -/
def atEnd (player : Player) : Bool := decide (player.maxStep ≤ player.cursor.step)

/-- The event under the cursor. -/
def event? (player : Player) : Option Event := player.log.event? player.cursor.step

/-- The wait before an event: the time that it took at the speed of the playback, but no less than
the shortest wait. -/
def waitFor (player : Player) (event : Event) : Except DurationOverflow Nat :=
  (Delta.scaled event.delta player.cursor.speed).map fun wait =>
    Nat.max wait player.pacing.minWait

/-- The wait before the next step, nothing on the last one. -/
def nextWait (player : Player) : Except DurationOverflow (Option Nat) :=
  match player.log.event? (player.cursor.step + 1) with
  | none => .ok none
  | some event => (player.waitFor event).map some

/-! ### Commands -/

/-- The player with its playback stopped. -/
def stopped (player : Player) : Player :=
  { player with cursor := { player.cursor with playing := false }, baseline := none }

/-- Starts the playback, unless the cursor is on the last step; tells whether it runs now. -/
def play (player : Player) : Bool × Player :=
  if player.cursor.playing then (true, player)
  else if player.atEnd then (false, player)
  else
    (true, { player with cursor := { player.cursor with playing := true }, baseline := none })

/-- Stops the playback. -/
def pause (player : Player) : Player := player.stopped

/-- Stops a playback that runs and starts one that does not; tells whether it runs now. -/
def toggle (player : Player) : Bool × Player :=
  if player.cursor.playing then (false, player.pause) else player.play

/-- Goes to a step, or to the nearest one that exists. -/
def seek (player : Player) (step : Int) : Player :=
  { player with cursor := player.cursor.seek step player.maxStep }

/-- Goes to the last step. -/
def seekEnd (player : Player) : Player :=
  { player with cursor := { player.cursor with step := player.maxStep } }

/-- Goes one step forward. -/
def stepForward (player : Player) : Player :=
  { player with cursor := player.cursor.forward 1 player.maxStep }

/-- Goes one step back. -/
def stepBack (player : Player) : Player :=
  { player with cursor := player.cursor.backward 1 }

/-- Plays at another speed. -/
def setSpeed (player : Player) (speed : Binary64) : Player :=
  { player with cursor := { player.cursor with speed := player.pacing.usable speed } }

/-- Raises the speed by one difference, up to the highest one; a speed beyond that is not
lowered below the highest one. -/
def speedUp (player : Player) : Player :=
  let speed := player.cursor.speed
  let next := (speed.add player.pacing.speedStep).min player.pacing.maxSpeed
  player.setSpeed (next.max (speed.min player.pacing.maxSpeed))

/-- Lowers the speed by one difference, down to the lowest one; a speed below that is not raised
above the lowest one. -/
def speedDown (player : Player) : Player :=
  let speed := player.cursor.speed
  let next := (speed.sub player.pacing.speedStep).max player.pacing.minSpeed
  player.setSpeed (next.min (speed.max player.pacing.minSpeed))

/-- Goes back to the first step; a playback that runs goes on. -/
def restart (player : Player) : Player :=
  { player with cursor := { player.cursor with step := 0 }, baseline := none }

/-- Takes another log: at its first step, stopped, at the same speed. -/
def load (player : Player) (log : Log) : Player :=
  { player with log := log, cursor := player.cursor.rewind, baseline := none }

/-- What a player can be told. -/
inductive Command where
  | play
  | pause
  | toggle
  | seek (step : Int)
  | seekEnd
  | stepForward
  | stepBack
  | setSpeed (speed : Binary64)
  | speedUp
  | speedDown
  | restart
  | load (log : Log)

/-- Carries out a command; starting and toggling tell whether the playback runs now. -/
def obey (player : Player) : Command → Option Bool × Player
  | .play => let (playing, next) := player.play; (some playing, next)
  | .pause => (none, player.pause)
  | .toggle => let (playing, next) := player.toggle; (some playing, next)
  | .seek step => (none, player.seek step)
  | .seekEnd => (none, player.seekEnd)
  | .stepForward => (none, player.stepForward)
  | .stepBack => (none, player.stepBack)
  | .setSpeed speed => (none, player.setSpeed speed)
  | .speedUp => (none, player.speedUp)
  | .speedDown => (none, player.speedDown)
  | .restart => (none, player.restart)
  | .load log => (none, player.load log)

/-! ### Ticks -/

/-- Takes the step that was waited for, and stops if it is the last one. -/
def advance (player : Player) (now : Nat) : TickOutcome × Player :=
  let next : Player :=
    { player with
      cursor := { player.cursor with step := player.cursor.step + 1 }, baseline := some now }
  if next.atEnd then (.finished next.cursor.step, next.stopped)
  else (.advanced next.cursor.step, next)

/-- A tick while some wait is in force; the first one only sets the time from which the wait
counts. -/
def tickWaiting (player : Player) (wait now : Nat) : TickOutcome × Player :=
  let baseline := player.baseline.getD now
  let elapsed := now - baseline
  if elapsed < wait then (.waiting (wait - elapsed), { player with baseline := some baseline })
  else player.advance now

/-- **One tick of the clock.** -/
def tick (player : Player) (now : Nat) : Except DurationOverflow (TickOutcome × Player) :=
  if player.cursor.playing then
    player.nextWait.map fun
      | none => (.finished player.cursor.step, player.stopped)
      | some wait => player.tickWaiting wait now
  else .ok (.idle, player)

end Player

end TracePlayer
