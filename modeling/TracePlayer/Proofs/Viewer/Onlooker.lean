/-
**What a viewer remembers of states never shows.**

A viewer asks a navigator for the states it shows, and the navigator moves along with every view and
with every key that goes from frame to frame.  Beside it stands an onlooker who has a player and a
selection but no navigator, and who folds the log from the beginning whenever a state is needed.
Both show the same views.

Main definitions:

* `App.Operation`, `App.perform`, `App.views`: what can be done to a viewer, and the views that come
  of it;
* `Onlooker`, `Onlooker.view`, `Onlooker.views`: the same without a navigator;
* `App.Coherent`: **the invariant**, player and navigator are on the same log, and neither has lost
  its way.

Main results:

* `App.Coherent.perform`: an operation keeps the invariant, and shows what an onlooker shows;
* `App.views_ofLog`: **every view is the one that an onlooker shows**.
-/
import TracePlayer.Viewer.App
import TracePlayer.Proofs.Playback.Step
import TracePlayer.Proofs.Timeline.Answers

set_option autoImplicit false

namespace TracePlayer

/-! ### Operations -/

/-- What can be done to a viewer. -/
inductive App.Operation where
  /-- An action of the user is carried out. -/
  | act (action : Action)
  /-- The playback is started. -/
  | autoplay
  /-- The playback goes on up to a time. -/
  | update (now : Nat)
  /-- The view is asked for. -/
  | view
  /-- Another log is taken. -/
  | load (log : Log)

namespace App

/-- One operation: the view, if it asks for one, and the viewer afterwards. -/
def perform (app : App) : Operation → Except DurationOverflow (Option View × App)
  | .act action => .ok (none, app.act action)
  | .autoplay => .ok (none, app.autoplay)
  | .update now => (app.update now).map fun (_, next) => (none, next)
  | .view => let (view, next) := app.view; .ok (some view, next)
  | .load log => .ok (none, app.load log)

/-- The views that come of some operations, one after the other, if each of them may show a view
and leads from one state to the next. -/
def viewsOf {σ : Type} (perform : σ → Operation → Except DurationOverflow (Option View × σ)) :
    σ → List Operation → Except DurationOverflow (List View)
  | _, [] => .ok []
  | state, operation :: rest => do
      let (view, next) ← perform state operation
      let others ← viewsOf perform next rest
      return view.toList ++ others

/-- The views that a viewer shows. -/
def views (app : App) (operations : List Operation) : Except DurationOverflow (List View) :=
  viewsOf perform app operations

end App

/-! ### Without a navigator -/

/-- What an action of the user tells the player, if it tells it anything. -/
def Action.command? : Action → Option Player.Command
  | .togglePlay => some .toggle
  | .stepBack => some .stepBack
  | .stepForward => some .stepForward
  | .seekStart => some (.seek 0)
  | .seekEnd => some .seekEnd
  | .speedUp => some .speedUp
  | .speedDown => some .speedDown
  | .restart => some .restart
  | .nextFrame | .previousFrame | .togglePin | .help | .quit | .unknown => none

/-- What an action of the user makes of the selection, with a state at hand. -/
def Selection.afterAction (selection : Selection) (state : State) : Action → Selection
  | .nextFrame => selection.next state
  | .previousFrame => selection.previous state
  | .togglePin => selection.togglePin
  | _ => selection

/-- A player and a selection, without anything that remembers states. -/
structure Onlooker where
  /-- The player that moves the cursor. -/
  player : Player
  /-- The selected frame. -/
  selection : Selection
  /-- The step of the last view. -/
  shownStep : Option Nat

namespace Onlooker

/-- An onlooker at the first step of a log, stopped. -/
def ofLog (log : Log) (pacing : Pacing) : Onlooker := ⟨.ofLog log pacing, .none, none⟩

/-- The step under the cursor. -/
def step (onlooker : Onlooker) : Nat := onlooker.player.cursor.step

/-- The state of the step under the cursor, folded from the beginning. -/
def state (onlooker : Onlooker) : State :=
  State.atStep onlooker.player.log.events onlooker.step

/-- The change from the step before the one under the cursor, by a full comparison. -/
def change (onlooker : Onlooker) : Change :=
  Change.between (State.atStep onlooker.player.log.events ((onlooker.step : Int) - 1))
    onlooker.state

/-- The selection of the next view: it follows the state if the step is a new one. -/
def nextSelection (onlooker : Onlooker) : Selection :=
  if onlooker.shownStep = some onlooker.step then onlooker.selection
  else onlooker.selection.follow onlooker.state

/-- **The view of the log**, folded from the beginning, at the step under the cursor. -/
def view (onlooker : Onlooker) : View × Onlooker :=
  (View.build onlooker.player.log onlooker.state onlooker.player.cursor onlooker.change
      onlooker.nextSelection,
    { onlooker with selection := onlooker.nextSelection, shownStep := some onlooker.step })

/-- Carries out an action of the user. -/
def act (onlooker : Onlooker) (action : Action) : Onlooker where
  player := action.command?.elim onlooker.player fun command => (onlooker.player.obey command).2
  selection := onlooker.selection.afterAction onlooker.state action
  shownStep := onlooker.shownStep

/-- One operation: the view, if it asks for one, and the onlooker afterwards. -/
def perform (onlooker : Onlooker) :
    App.Operation → Except DurationOverflow (Option View × Onlooker)
  | .act action => .ok (none, onlooker.act action)
  | .autoplay => .ok (none, { onlooker with player := onlooker.player.play.2 })
  | .update now =>
      (onlooker.player.tick now).map fun (_, player) => (none, { onlooker with player := player })
  | .view => let (view, next) := onlooker.view; .ok (some view, next)
  | .load log => .ok (none, ⟨onlooker.player.load log, .none, none⟩)

/-- The views that an onlooker shows. -/
def views (onlooker : Onlooker) (operations : List App.Operation) :
    Except DurationOverflow (List View) :=
  App.viewsOf perform onlooker operations

end Onlooker

/-! ### What stays as it is -/

/-- At a step of the log, the change is the full comparison of the states around it. -/
theorem Log.changeAt_of_le_maxStep {log : Log} {step : Nat} (h : step ≤ log.maxStep) :
    log.changeAt step = Change.between (State.atStep log.events ((step : Int) - 1))
      (State.atStep log.events step) := by
  unfold changeAt
  split
  · next hnone =>
      have hlength : log.events.length = 0 := hnone.resolve_left (by omega)
      have hevents : log.events = [] := List.length_eq_zero_iff.1 hlength
      simp only [hevents, State.atStep, State.ofPrefix, List.take_nil, State.applyAll_nil]
      rfl
  · have hmin : min (step : Int) ((log.length : Int) - 1) = step := by
      unfold maxStep length at *
      omega
    simp only [hmin]

namespace Player

variable {player next : Player} {outcome : TickOutcome} {now : Nat}

theorem log_play (player : Player) : player.play.2.log = player.log := by
  rcases player.play_eq_or with hsame | hplays
  · rw [hsame]
  · rw [hplays]

/-- An action of the user never takes another log. -/
theorem log_obey {action : TracePlayer.Action} {command : Command}
    (h : action.command? = some command) :
    (player.obey command).2.log = player.log := by
  cases action <;> cases h <;> try rfl
  change player.toggle.2.log = player.log
  unfold toggle
  split
  · rfl
  · exact player.log_play

end Player

namespace App

/-- The part of a viewer that does not remember states. -/
def onlooker (app : App) : Onlooker := ⟨app.player, app.selection, app.shownStep⟩

/-- **The invariant**: player and navigator are on the same log, the cursor is inside it, and all
that the navigator remembers is what the log gives. -/
structure Coherent (app : App) : Prop where
  /-- The navigator is faithful to its log. -/
  faithful : app.navigator.Faithful
  /-- It is the log that is played. -/
  log_eq : app.navigator.log = app.player.log
  /-- The cursor is inside the log. -/
  sound : app.player.Sound

theorem coherent_ofLog (log : Log) (pacing : Pacing) (interval : Nat) :
    (ofLog log pacing interval).Coherent :=
  ⟨Navigator.faithful_ofLog log interval, rfl, Player.sound_ofLog log pacing⟩

namespace Coherent

variable {app : App}

/-- Any navigator that is faithful to the log that is played answers with the state that an
onlooker folds. -/
theorem stateAt_eq (h : app.Coherent) {navigator : Navigator} (faithful : navigator.Faithful)
    (hlog : navigator.log = app.navigator.log) :
    (navigator.stateAt app.player.cursor.step).1 = app.onlooker.state := by
  rw [(faithful.stateAt _).1, hlog, h.log_eq]
  rfl

theorem changeAt_eq (h : app.Coherent) :
    (app.navigator.changeAt app.player.cursor.step).1 = app.onlooker.change := by
  rw [(h.faithful.changeAt _).1, h.log_eq, Log.changeAt_of_le_maxStep h.sound.step_le]
  rfl

/-- The player may go on, as long as it keeps to its log. -/
theorem withPlayer (h : app.Coherent) {player : Player} (hlog : player.log = app.player.log)
    (sound : player.Sound) : Coherent { app with player := player } :=
  ⟨h.faithful, h.log_eq.trans hlog.symm, sound⟩

/-- **A view keeps the invariant, and is the one that an onlooker shows.** -/
theorem view (h : app.Coherent) :
    app.view.1 = app.onlooker.view.1 ∧ app.view.2.onlooker = app.onlooker.view.2 ∧
      app.view.2.Coherent := by
  -- The change is asked for first, so the state comes from a navigator that has moved.
  obtain ⟨-, hfaithful, hlog⟩ := h.faithful.changeAt (app.player.cursor.step : Int)
  obtain ⟨-, hfaithful', hlog'⟩ := hfaithful.stateAt (app.player.cursor.step : Int)
  have hchange := h.changeAt_eq
  have hstate := h.stateAt_eq hfaithful hlog
  simp only [App.view, Onlooker.view]
  generalize app.navigator.changeAt app.player.cursor.step = answer at *
  generalize answer.2.stateAt app.player.cursor.step = answer' at *
  rw [hchange, hstate]
  exact ⟨rfl, rfl, hfaithful', hlog'.trans (hlog.trans h.log_eq), h.sound⟩

/-- Going from frame to frame asks the navigator for a state, which is that of an onlooker. -/
theorem cycleFrames (h : app.Coherent) (move : Selection → State → Selection) :
    (app.cycleFrames move).onlooker =
        { app.onlooker with selection := move app.selection app.onlooker.state } ∧
      (app.cycleFrames move).Coherent := by
  obtain ⟨-, hfaithful, hlog⟩ := h.faithful.stateAt (app.player.cursor.step : Int)
  have hstate := h.stateAt_eq h.faithful rfl
  simp only [App.cycleFrames]
  generalize app.navigator.stateAt app.player.cursor.step = answer at *
  rw [hstate]
  exact ⟨rfl, hfaithful, hlog.trans h.log_eq, h.sound⟩

/-- An action that tells the player something does nothing else. -/
theorem act_of_command (app : App) {action : Action} {command : Player.Command}
    (hcommand : action.command? = some command) :
    app.act action = { app with player := (app.player.obey command).2 } ∧
      app.onlooker.act action = { app.onlooker with player := (app.player.obey command).2 } := by
  cases action <;> cases hcommand <;> exact ⟨rfl, rfl⟩

/-- **An action of the user keeps the invariant, and does to the viewer what it does to an
onlooker.** -/
theorem act (h : app.Coherent) (action : Action) :
    (app.act action).onlooker = app.onlooker.act action ∧ (app.act action).Coherent := by
  cases hcommand : action.command? with
  | some command =>
      obtain ⟨hviewer, honlooker⟩ := act_of_command app hcommand
      rw [hviewer, honlooker]
      exact ⟨rfl, h.withPlayer (Player.log_obey hcommand) (h.sound.obey command)⟩
  | none =>
      cases action with
      | nextFrame => exact h.cycleFrames Selection.next
      | previousFrame => exact h.cycleFrames Selection.previous
      | togglePin | help | quit | unknown => exact ⟨rfl, h.faithful, h.log_eq, h.sound⟩
      | togglePlay | stepBack | stepForward | seekStart | seekEnd | speedUp | speedDown
      | restart => cases hcommand

/-- **One operation keeps the invariant, and shows what an onlooker shows**; both break off
together. -/
theorem perform (h : app.Coherent) (operation : Operation) :
    (∃ fault, app.perform operation = .error fault ∧
      app.onlooker.perform operation = .error fault) ∨
    ∃ view next, app.perform operation = .ok (view, next) ∧
      app.onlooker.perform operation = .ok (view, next.onlooker) ∧ next.Coherent := by
  cases operation with
  | act action =>
      obtain ⟨honlooker, hnext⟩ := h.act action
      exact .inr ⟨none, app.act action, rfl, by rw [honlooker]; rfl, hnext⟩
  | autoplay =>
      exact .inr ⟨none, app.autoplay, rfl, rfl, h.withPlayer app.player.log_play h.sound.play⟩
  | update now =>
      simp only [App.perform, App.update, Onlooker.perform, App.onlooker]
      cases htick : app.player.tick now with
      | error fault => exact .inl ⟨fault, rfl, rfl⟩
      | ok result =>
          obtain ⟨outcome, player⟩ := result
          refine .inr ⟨none, { app with player := player }, rfl, rfl, ?_⟩
          exact h.withPlayer (Player.log_tick htick) (h.sound.tick htick)
  | view =>
      obtain ⟨hview, honlooker, hnext⟩ := h.view
      refine .inr ⟨some app.view.1, app.view.2, rfl, ?_, hnext⟩
      rw [hview, honlooker]
      rfl
  | load log =>
      exact .inr ⟨none, app.load log, rfl, rfl, Navigator.faithful_ofLog log _, rfl,
        h.sound.obey (.load log)⟩

/-- A viewer that keeps the invariant shows what an onlooker shows, whatever is done to it. -/
theorem views (h : app.Coherent) (operations : List Operation) :
    app.views operations = app.onlooker.views operations := by
  unfold App.views Onlooker.views
  induction operations generalizing app with
  | nil => rfl
  | cons operation rest ih =>
      rcases h.perform operation with
        ⟨fault, hviewer, honlooker⟩ | ⟨view, next, hviewer, honlooker, hnext⟩
      · simp only [viewsOf, hviewer, honlooker, bind, Except.bind]
      · simp only [viewsOf, hviewer, honlooker, bind, Except.bind, ih hnext]

end Coherent

/-- **Every view is the one that an onlooker shows**: whatever is done to a viewer, a view is built
from the log that is played, the fold over it from the beginning, the cursor, the full comparison
with the step before and the selection that comes of such folds alone. -/
theorem views_ofLog (log : Log) (pacing : Pacing) (interval : Nat) (operations : List Operation) :
    (ofLog log pacing interval).views operations
      = (Onlooker.ofLog log pacing).views operations :=
  (coherent_ofLog log pacing interval).views operations

end App

end TracePlayer
