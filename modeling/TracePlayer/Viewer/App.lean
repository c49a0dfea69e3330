/-
**The viewer.**

A viewer joins a player, a navigator and a selection on one log.

Main definitions:

* `App`: the state of the viewer;
* `App.view`: the view of the step under the cursor; the selection follows when the step is a new
  one;
* `App.update`, `App.act`, `App.load`: the passage of time, an action of the user, another log.
-/
import TracePlayer.Playback.Player
import TracePlayer.Timeline.Navigator
import TracePlayer.Viewer.Key
import TracePlayer.Viewer.View

set_option autoImplicit false

namespace TracePlayer

/-- The state of the viewer. -/
structure App where
  /-- The player that moves the cursor. -/
  player : Player
  /-- The navigator that answers for the states. -/
  navigator : Navigator
  /-- The selected frame. -/
  selection : Selection
  /-- The step of the last view. -/
  shownStep : Option Nat
  /-- Whether the keys are on show. -/
  showHelp : Bool
  /-- Whether the user asked to leave. -/
  quitting : Bool

namespace App

/-- A viewer at the first step of a log, stopped. -/
def ofLog (log : Log) (pacing : Pacing) (interval : Nat) : App where
  player := .ofLog log pacing
  navigator := .ofLog log interval
  selection := .none
  shownStep := none
  showHelp := false
  quitting := false

/-- The viewer with its playback started. -/
def autoplay (app : App) : App := { app with player := app.player.play.2 }

/-- Takes another log; nothing of the old one stays on show. -/
def load (app : App) (log : Log) : App :=
  { app with
    player := app.player.load log
    navigator := app.navigator.load log
    selection := .none
    shownStep := none }

/-- Lets the playback go on up to a time. -/
def update (app : App) (now : Nat) : Except DurationOverflow (TickOutcome × App) :=
  (app.player.tick now).map fun (outcome, player) => (outcome, { app with player := player })

/-- The selection for a view of a state at a step: it follows if the step is a new one. -/
def selectionFor (app : App) (state : State) (step : Nat) : Selection :=
  if app.shownStep = some step then app.selection else app.selection.follow state

/-- **The view of the step under the cursor.** -/
def view (app : App) : View × App :=
  let cursor := app.player.cursor
  let (change, navigator) := app.navigator.changeAt cursor.step
  let (state, navigator) := navigator.stateAt cursor.step
  let selection := app.selectionFor state cursor.step
  (View.build app.player.log state cursor change selection,
    { app with
      navigator := navigator, selection := selection, shownStep := some cursor.step })

/-- Moves the selection with the state of the step under the cursor at hand. -/
def cycleFrames (app : App) (move : Selection → State → Selection) : App :=
  let (state, navigator) := app.navigator.stateAt app.player.cursor.step
  { app with navigator := navigator, selection := move app.selection state }

/-- Carries out an action of the user. -/
def act (app : App) : Action → App
  | .togglePlay => { app with player := app.player.toggle.2 }
  | .stepBack => { app with player := app.player.stepBack }
  | .stepForward => { app with player := app.player.stepForward }
  | .seekStart => { app with player := app.player.seek 0 }
  | .seekEnd => { app with player := app.player.seekEnd }
  | .speedUp => { app with player := app.player.speedUp }
  | .speedDown => { app with player := app.player.speedDown }
  | .restart => { app with player := app.player.restart }
  | .nextFrame => app.cycleFrames Selection.next
  | .previousFrame => app.cycleFrames Selection.previous
  | .togglePin => { app with selection := app.selection.togglePin }
  | .help => { app with showHelp := !app.showHelp }
  | .quit => { app with quitting := true }
  | .unknown => app

end App

end TracePlayer
