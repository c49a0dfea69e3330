/-
**The viewer goes round.**

A viewer lets time pass, shows a view and carries out at most one action of the user, again and
again; between two rounds it may take other logs.  The selection follows the cursor only when a view
is made, so between two views it may be out of date: the cursor may have moved to a step where the
selected frame does not exist yet, and back again.  What holds all the time is that the selected
frame exists at the step that was shown last.

Main definitions:

* `App.Round`, `App.Turn`, `App.turns`: what happens in a round, and what the rounds show;
* `App.Aimed`: **the invariant**, the selected frame exists at the step that was shown last.

Main results:

* `Selection.isSome_resolve_follow`, `Selection.isSome_resolve_cycle`: a selection that follows the
  cursor, and one that goes from frame to frame, ends at a frame that exists;
* `App.Aimed.view`, `App.Aimed.act`: a view, and the action after it, keep the invariant;
* `App.focused_of_mem_turns`: **every view puts one frame on show**, and after a move the one of the
  event under the cursor.
-/
import TracePlayer.Proofs.Playback.Run
import TracePlayer.Proofs.Viewer.Onlooker
import TracePlayer.Proofs.Viewer.Spotlight

set_option autoImplicit false

namespace TracePlayer

/-! ### States of a log -/

/-- At a step of the log, the last event is the one of the step, and its frame exists. -/
theorem State.lastEvent_atStep {events : List Event} {step : Nat} {event : Event}
    (h : events[step]? = some event) :
    (atStep events step).lastEvent = some event ∧
      ((atStep events step).frame? event.frame).isSome = true := by
  obtain ⟨hlt, -⟩ := List.getElem?_eq_some_iff.1 h
  have hstep : atStep events (((step + 1 : Nat) : Int) - 1) = ofPrefix events (step + 1) :=
    atStep_sub_one hlt
  rw [Int.natCast_add, Int.natCast_one, Int.add_sub_cancel, ofPrefix_succ h] at hstep
  rw [hstep]
  exact ⟨rfl, by rw [frame?_apply, if_pos rfl]; rfl⟩

/-! ### Selections -/

namespace Selection

variable {selection : Selection} {state : State} {event : Event}

theorem isSome_resolve_iff :
    (selection.resolve state).isSome = true ↔
      ∃ id, selection.selected = some id ∧ (state.frame? id).isSome = true := by
  simp only [resolve, Option.isSome_iff_exists, Option.filter_eq_some_iff]

/-- A selection that follows the cursor ends at a frame that exists. -/
theorem isSome_resolve_follow (last : state.lastEvent = some event)
    (exists_ : (state.frame? event.frame).isSome = true) :
    ((selection.follow state).resolve state).isSome = true := by
  unfold follow
  split
  · next held => exact (Bool.and_eq_true_iff.1 held).2
  · rw [last]
    exact isSome_resolve_iff.2 ⟨event.frame, rfl, exists_⟩

/-- Unless a pin holds it, it goes to the frame of the last event. -/
theorem selected_follow (last : state.lastEvent = some event)
    (free : (selection.follow state).pinned = false) :
    (selection.follow state).selected = some event.frame := by
  unfold follow at free ⊢
  split at free
  · next held =>
      rw [(Bool.and_eq_true_iff.1 held).1] at free
      cases free
  · next held => rw [if_neg held, last]

/-- A selection that goes from frame to frame ends at a frame that exists. -/
theorem isSome_resolve_cycle (h : (selection.resolve state).isSome = true) (places : Int) :
    ((selection.cycle state places).resolve state).isSome = true := by
  simp only [cycle]
  split
  · exact h
  · split
    · next id hid =>
        exact isSome_resolve_iff.2 ⟨id, rfl, State.mem_frameOrder_iff.1 (List.mem_of_getElem? hid)⟩
    · exact h

/-- The pin does not matter for the frame. -/
theorem resolve_togglePin (selection : Selection) (state : State) :
    selection.togglePin.resolve state = selection.resolve state := by
  unfold togglePin
  split <;> rfl

/-- No action of the user leads from a frame that exists to one that does not. -/
theorem isSome_resolve_afterAction (h : (selection.resolve state).isSome = true)
    (action : Action) : ((selection.afterAction state action).resolve state).isSome = true := by
  cases action with
  | nextFrame | previousFrame => exact isSome_resolve_cycle h _
  | togglePin => rwa [afterAction, resolve_togglePin]
  | togglePlay | stepBack | stepForward | seekStart | seekEnd | speedUp | speedDown | restart
  | help | quit | unknown => exact h

end Selection

/-! ### Rounds -/

namespace App

/-- What happens in a round of the viewer. -/
structure Round where
  /-- The logs that were taken since the last round. -/
  loads : List Log
  /-- The time. -/
  now : Nat
  /-- What the user does after the view, if anything. -/
  action : Option Action

/-- What a round shows. -/
structure Turn where
  /-- The step of the view before, if there was one since the log was taken. -/
  previous : Option Nat
  /-- The view. -/
  view : View
  /-- The viewer that has just made the view. -/
  app : App

/-- The step of the view before a round: taking a log makes it one of another log. -/
def Round.previous (round : Round) (before : Option Nat) : Option Nat :=
  if round.loads.isEmpty then before else none

/-- **What the rounds of a viewer show**, if a step was shown before.  They end when the user
leaves, and break off at a wait that is longer than a duration can be. -/
def turns : Option Nat → App → List Round → List Turn
  | _, _, [] => []
  | before, app, round :: rest =>
      match (round.loads.foldl load app).update round.now with
      | .error _ => []
      | .ok (_, app) =>
          let (view, shown) := app.view
          let next := round.action.elim shown shown.act
          ⟨round.previous before, view, shown⟩ ::
            if next.quitting then [] else turns (some view.status.step) next rest

/-- The state of the step under the cursor. -/
def state (app : App) : State := State.atStep app.player.log.events app.player.cursor.step

/-- **The invariant**: the log has events, and the selected frame exists at the step that was shown
last, if one was shown since the log was taken. -/
structure Aimed (app : App) : Prop where
  coherent : app.Coherent
  events_ne_nil : app.player.log.events ≠ []
  resolves : ∀ step, app.shownStep = some step →
    (app.selection.resolve (State.atStep app.player.log.events step)).isSome = true

theorem aimed_ofLog {log : Log} (h : log.events ≠ []) (pacing : Pacing) (interval : Nat) :
    (ofLog log pacing interval).Aimed :=
  ⟨coherent_ofLog log pacing interval, h, nofun⟩

variable {app next : App}

theorem shownStep_act (app : App) (action : Action) :
    (app.act action).shownStep = app.shownStep := by
  cases action <;> rfl

/-- Letting time pass is a matter of the player alone. -/
theorem exists_tick_of_update {now : Nat} {outcome : TickOutcome}
    (h : app.update now = .ok (outcome, next)) :
    ∃ player, app.player.tick now = .ok (outcome, player) ∧
      next = { app with player := player } := by
  unfold App.update at h
  cases htick : app.player.tick now with
  | error fault => simp [htick, Except.map] at h
  | ok result =>
      simp only [htick, Except.map, Except.ok.injEq, Prod.mk.injEq] at h
      obtain ⟨rfl, rfl⟩ := h
      exact ⟨result.2, rfl, rfl⟩

/-- An action of the user never takes another log. -/
theorem log_act (app : App) (action : Action) : (app.act action).player.log = app.player.log := by
  cases hcommand : action.command? with
  | some command =>
      rw [(Coherent.act_of_command app hcommand).1]
      exact Player.log_obey hcommand
  | none =>
      cases action with
      | nextFrame | previousFrame | togglePin | help | quit | unknown => rfl
      | togglePlay | stepBack | stepForward | seekStart | seekEnd | speedUp | speedDown
      | restart => cases hcommand

/-- What an action makes of the selection. -/
theorem Coherent.selection_act (h : app.Coherent) (action : Action) :
    (app.act action).selection = app.selection.afterAction app.state action :=
  congrArg Onlooker.selection (h.act action).1

/-- What a view makes of a viewer, the navigator apart. -/
theorem Coherent.parts_view (h : app.Coherent) :
    app.view.1.status.step = app.player.cursor.step ∧ app.view.2.player = app.player ∧
      app.view.2.selection = app.onlooker.nextSelection ∧
      app.view.2.shownStep = some app.player.cursor.step := by
  obtain ⟨hview, honlooker, -⟩ := h.view
  exact ⟨congrArg (fun view => view.status.step) hview, congrArg Onlooker.player honlooker,
    congrArg Onlooker.selection honlooker, congrArg Onlooker.shownStep honlooker⟩

/-- The event under the cursor. -/
theorem Aimed.exists_event (aimed : app.Aimed) :
    ∃ event, app.player.log.event? app.player.cursor.step = some event := by
  have hle := aimed.coherent.sound.step_le
  have hpos := List.length_pos_iff.2 aimed.events_ne_nil
  unfold Player.maxStep Log.maxStep at hle
  exact ⟨_, List.getElem?_eq_getElem (by omega)⟩

namespace Aimed

/-- The player may go on, as long as it keeps to its log. -/
theorem withPlayer (aimed : app.Aimed) {player : Player}
    (hlog : player.log = app.player.log) (sound : player.Sound) :
    Aimed { app with player := player } where
  coherent := aimed.coherent.withPlayer hlog sound
  events_ne_nil := hlog ▸ aimed.events_ne_nil
  resolves := hlog ▸ aimed.resolves

theorem autoplay (aimed : app.Aimed) : app.autoplay.Aimed :=
  aimed.withPlayer app.player.log_play aimed.coherent.sound.play

theorem load (aimed : app.Aimed) {log : Log} (h : log.events ≠ []) :
    (app.load log).Aimed where
  coherent := ⟨Navigator.faithful_ofLog log _, rfl, aimed.coherent.sound.obey (.load log)⟩
  events_ne_nil := h
  resolves := nofun

theorem foldl_load (aimed : app.Aimed) {logs : List Log}
    (h : ∀ log ∈ logs, log.events ≠ []) : (logs.foldl App.load app).Aimed := by
  induction logs generalizing app with
  | nil => exact aimed
  | cons log rest ih =>
      obtain ⟨hlog, hrest⟩ := List.forall_mem_cons.1 h
      exact ih (aimed.load hlog) hrest

theorem update (aimed : app.Aimed) {now : Nat} {outcome : TickOutcome}
    (h : app.update now = .ok (outcome, next)) : next.Aimed := by
  obtain ⟨player, htick, rfl⟩ := exists_tick_of_update h
  exact aimed.withPlayer (Player.log_tick htick) (aimed.coherent.sound.tick htick)

/-- The selection of the next view is a frame that exists; after a move and without a pin it is the
one of the event under the cursor. -/
theorem nextSelection (aimed : app.Aimed) :
    (app.onlooker.nextSelection.resolve app.state).isSome = true ∧
      (app.shownStep ≠ some app.player.cursor.step → app.onlooker.nextSelection.pinned = false →
        ∃ event, app.player.log.event? app.player.cursor.step = some event ∧
          app.onlooker.nextSelection.selected = some event.frame) := by
  obtain ⟨event, hevent⟩ := aimed.exists_event
  obtain ⟨hlast, hframe⟩ := State.lastEvent_atStep hevent
  unfold Onlooker.nextSelection
  split
  · next hshown => exact ⟨aimed.resolves _ hshown, absurd hshown⟩
  · exact ⟨Selection.isSome_resolve_follow hlast hframe,
      fun _ free => ⟨event, hevent, Selection.selected_follow hlast free⟩⟩

/-- **A view keeps the invariant**, and has shown the step under the cursor. -/
theorem view (aimed : app.Aimed) :
    app.view.2.Aimed ∧ app.view.2.shownStep = some app.view.2.player.cursor.step := by
  obtain ⟨-, -, hcoherent⟩ := aimed.coherent.view
  obtain ⟨-, hplayer, hselection, hshown⟩ := aimed.coherent.parts_view
  refine ⟨⟨hcoherent, hplayer ▸ aimed.events_ne_nil, fun step hstep => ?_⟩, hplayer ▸ hshown⟩
  obtain rfl := Option.some_inj.1 (hshown.symm.trans hstep)
  rw [hplayer, hselection]
  exact aimed.nextSelection.1

/-- **An action after a view keeps the invariant**: the cursor still is at the step that was shown,
so a selection that goes from frame to frame goes to one that exists there. -/
theorem act (aimed : app.Aimed) (shown : app.shownStep = some app.player.cursor.step)
    (action : Action) : (app.act action).Aimed := by
  have hlog := app.log_act action
  refine ⟨(aimed.coherent.act action).2, hlog ▸ aimed.events_ne_nil, fun step hstep => ?_⟩
  obtain rfl := Option.some_inj.1 (shown.symm.trans ((shownStep_act app action).symm.trans hstep))
  rw [hlog, aimed.coherent.selection_act]
  exact Selection.isSome_resolve_afterAction (aimed.resolves _ shown) action

theorem elim_act (aimed : app.Aimed) (shown : app.shownStep = some app.player.cursor.step)
    (action : Option Action) :
    (action.elim app app.act).Aimed ∧ (action.elim app app.act).shownStep = app.shownStep := by
  cases action with
  | none => exact ⟨aimed, rfl⟩
  | some action => exact ⟨aimed.act shown action, shownStep_act app action⟩

end Aimed

/-! ### What is on show -/

/-- **What a view shows**: one frame of the state under the cursor, which after a move and without a
pin is the one of the event there. -/
def Turn.Focused (turn : Turn) : Prop :=
  ∃ frame, turn.app.state.frame? frame.id = some frame ∧ turn.view.Spotlights frame ∧
    (turn.previous ≠ some turn.view.status.step → turn.app.selection.pinned = false →
      ∃ event, turn.app.player.log.event? turn.view.status.step = some event ∧
        event.frame = frame.id)

/-- The view of a viewer that keeps the invariant puts one frame on show. -/
theorem Aimed.focused (aimed : app.Aimed) :
    Turn.Focused ⟨app.shownStep, app.view.1, app.view.2⟩ := by
  obtain ⟨hview, -, -⟩ := aimed.coherent.view
  obtain ⟨-, hplayer, hselection, -⟩ := aimed.coherent.parts_view
  obtain ⟨hresolves, hmoved⟩ := aimed.nextSelection
  obtain ⟨id, hid⟩ := Option.isSome_iff_exists.1 hresolves
  obtain ⟨hselected, hexists⟩ := Option.filter_eq_some_iff.1 hid
  obtain ⟨frame, hframe⟩ := Option.isSome_iff_exists.1 hexists
  obtain rfl : frame.id = id := FrameTable.id_of_find? hframe
  refine ⟨frame, ?_, ?_, ?_⟩
  · simp only [state, hplayer]
    exact hframe
  · rw [hview]
    exact View.spotlights_build _ _ _ hid hframe
  · simp only [hplayer, hselection, hview]
    intro hstep hfree
    obtain ⟨event, hevent, hevents⟩ := hmoved hstep hfree
    exact ⟨event, hevent, Option.some_inj.1 (hevents.symm.trans hselected)⟩

/-! ### The remembered step -/

theorem shownStep_foldl_load (app : App) (logs : List Log) :
    (logs.foldl load app).shownStep = if logs.isEmpty then app.shownStep else none := by
  induction logs generalizing app with
  | nil => rfl
  | cons log rest ih =>
      rw [List.foldl_cons, ih]
      exact ite_self none

/-- A round goes on from the view it made. -/
theorem turns_cons {round : Round} {rest : List Round} {before : Option Nat} {outcome : TickOutcome}
    (h : (round.loads.foldl load app).update round.now = .ok (outcome, next)) :
    turns before app (round :: rest) =
      ⟨round.previous before, next.view.1, next.view.2⟩ ::
        if (round.action.elim next.view.2 next.view.2.act).quitting then []
        else turns (some next.view.1.status.step)
          (round.action.elim next.view.2 next.view.2.act) rest := by
  rw [turns, h]

/-! ### Rounds keep the invariant -/

/-- Every round of a viewer that keeps the invariant puts one frame on show. -/
theorem Aimed.focused_turns (aimed : app.Aimed) {rounds : List Round}
    (loads : ∀ round ∈ rounds, ∀ log ∈ round.loads, log.events ≠ []) :
    ∀ turn ∈ turns app.shownStep app rounds, turn.Focused := by
  induction rounds generalizing app with
  | nil => exact List.forall_mem_nil _
  | cons round rest ih =>
      obtain ⟨hround, hrest⟩ := List.forall_mem_cons.1 loads
      cases hupdate : (round.loads.foldl App.load app).update round.now with
      | error fault =>
          rw [turns, hupdate]
          exact List.forall_mem_nil _
      | ok result =>
          have hnow : result.2.Aimed := (aimed.foldl_load hround).update hupdate
          have hprevious : round.previous app.shownStep = result.2.shownStep := by
            obtain ⟨player, -, hnext⟩ := exists_tick_of_update hupdate
            rw [hnext, shownStep_foldl_load, Round.previous]
          obtain ⟨hshown, hstep⟩ := hnow.view
          obtain ⟨hnext, hremembers⟩ := hshown.elim_act hstep round.action
          rw [turns_cons hupdate, hprevious]
          refine List.forall_mem_cons.2 ⟨hnow.focused, ?_⟩
          cases (round.action.elim result.2.view.2 result.2.view.2.act).quitting with
          | true => exact List.forall_mem_nil _
          | false =>
              have := ih hnext hrest
              rwa [hremembers] at this

/-- A viewer that is opened on a log, and may start the playback at once. -/
def entered (log : Log) (pacing : Pacing) (interval : Nat) (plays : Bool) : App :=
  if plays then (ofLog log pacing interval).autoplay else ofLog log pacing interval

/-- **Every view puts one frame on show**: whatever the user does and whenever, and whichever logs
with events are taken between the rounds, each view has exactly one selected row and one selected
tab, both of the frame whose locals it shows; after a move and without a pin, this is the frame of
the event under the cursor. -/
theorem focused_of_mem_turns {log : Log} (h : log.events ≠ []) (pacing : Pacing) (interval : Nat)
    (plays : Bool) {rounds : List Round}
    (loads : ∀ round ∈ rounds, ∀ log ∈ round.loads, log.events ≠ []) :
    ∀ turn ∈ turns none (entered log pacing interval plays) rounds, turn.Focused := by
  have aimed := aimed_ofLog h pacing interval
  unfold entered
  split
  · exact aimed.autoplay.focused_turns loads
  · exact aimed.focused_turns loads

/-- A call and another one in it that returns. -/
def calledInside : Log :=
  { Log.empty ⟨"inside"⟩ with
    events := [.plain 0 .call 1, { Event.plain 1 .call 2 with parent := some 1, depth := 1 },
      .plain 2 .ret 2] }

/-- Rounds in which the inner call is pinned, the cursor goes back to where it does not exist, and
another log is taken. -/
def pinnedTooFar : List Round :=
  [⟨[], 0, some .seekEnd⟩, ⟨[], 1, some .togglePin⟩, ⟨[], 2, some .stepBack⟩,
    ⟨[], 3, some .seekStart⟩, ⟨[], 4, none⟩, ⟨[calledInside, Player.threeLines], 5, some .quit⟩,
    ⟨[], 6, none⟩]

/-- The frame that is pinned too far gives way to the one of the event. -/
theorem focused_of_mem_turns_pinnedTooFar :
    calledInside.events ≠ [] ∧
      (∀ round ∈ pinnedTooFar, ∀ log ∈ round.loads, log.events ≠ []) ∧
      (turns none (entered calledInside .standard 1 false) pinnedTooFar).map (fun turn =>
          (turn.previous, turn.view.status.step, turn.view.locals.frame,
            turn.app.selection.pinned)) =
        [(none, 0, some 1, false), (some 0, 2, some 2, false), (some 2, 2, some 2, true),
          (some 2, 1, some 2, true), (some 1, 0, some 1, false), (none, 0, some 1, false)] ∧
      ∀ turn ∈ turns none (entered calledInside .standard 1 false) pinnedTooFar, turn.Focused :=
  ⟨List.cons_ne_nil _ _, by decide, by decide +kernel,
    focused_of_mem_turns (List.cons_ne_nil _ _) .standard 1 false (by decide)⟩

end App

end TracePlayer
