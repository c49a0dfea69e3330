/-
**A pinned frame.**

A pin holds a frame on show wherever the cursor goes.  The frame exists at every step from the one
where it began, and at no step before.  So the pin holds as long as the cursor stays on this side,
and the first view from the other side drops it and shows the frame of the event instead.

Main definitions:

* `Log.Begins`: **from which step on a frame exists**;
* `App.Round.LeavesSelection`: a round in which the user neither selects nor pins anything, and no
  log is taken;
* `App.Pins`: **the invariant**, a frame is pinned that had begun by the step that was shown last;
* `App.Turn.ShowsPinned`, `App.Turn.ShowsEvent`: a view shows the pinned frame, and the one of the
  event under the cursor.

Main results:

* `State.isSome_frame?_atStep_iff`: **a frame exists at the steps from its beginning on**;
* `App.Pins.holds`, `App.Pins.drops`: one view of a pinned frame;
* `App.Pins.view`, `App.Pins.act`: what keeps the invariant;
* `App.pin_holds_or_drops`: **how long a pin holds**.
-/
import TracePlayer.Proofs.Program.Growth
import TracePlayer.Proofs.Viewer.Reload
import TracePlayer.Proofs.Viewer.Rounds

set_option autoImplicit false

namespace TracePlayer

/-! ### Since when a frame exists -/

namespace State

variable {events : List Event} {id : FrameId} {frame other : Frame} {a b step : Int}

/-- A frame began with an event of its own, at a step that is not later than the one at hand. -/
theorem exists_event_createdAt (h : (atStep events step).frame? id = some frame) :
    ∃ event, events[frame.createdAt]? = some event ∧ event.frame = id ∧
      (frame.createdAt : Int) ≤ step := by
  obtain ⟨hmem, hid⟩ := FrameTable.find?_eq_some_iff.1 h
  obtain ⟨event, hevent, hframe⟩ := getElem?_createdAt hmem
  obtain ⟨hlt, -⟩ := List.getElem?_eq_some_iff.1 hevent
  have hthrough : frame.createdAt < eventsThrough events.length step :=
    Nat.lt_of_lt_of_le hlt (List.length_take_le _ _)
  rw [List.getElem?_take_of_lt hthrough] at hevent
  exact ⟨event, hevent, hframe.trans hid, (lt_eventsThrough_iff.1 hthrough).2⟩

/-- A frame began where it began, whatever the step. -/
theorem createdAt_eq (ha : (atStep events a).frame? id = some frame)
    (hb : (atStep events b).frame? id = some other) : frame.createdAt = other.createdAt := by
  have hearlier : ∀ {a b : Int} {frame other : Frame}, a ≤ b →
      (atStep events a).frame? id = some frame → (atStep events b).frame? id = some other →
      frame.createdAt = other.createdAt := by
    intro a b frame other hle ha hb
    obtain ⟨later, hlater, hcontained⟩ :=
      (contained_ofPrefix events (eventsThrough_mono _ hle)).frame id frame ha
    cases hlater.symm.trans hb
    exact hcontained.createdAt.symm
  rcases Int.le_total a b with hle | hle
  · exact hearlier hle ha hb
  · exact (hearlier hle hb ha).symm

/-- **A frame exists at the steps from its beginning on**, and at no other ones. -/
theorem isSome_frame?_atStep_iff (h : (atStep events a).frame? id = some frame) (b : Int) :
    ((atStep events b).frame? id).isSome = true ↔ (frame.createdAt : Int) ≤ b := by
  constructor
  · intro hexists
    obtain ⟨other, hother⟩ := Option.isSome_iff_exists.1 hexists
    obtain ⟨-, -, -, hle⟩ := exists_event_createdAt hother
    rwa [createdAt_eq h hother]
  · intro hle
    obtain ⟨event, hevent, rfl, -⟩ := exists_event_createdAt h
    obtain ⟨later, hlater, -⟩ := exists_frame_atStep hevent hle
    exact Option.isSome_of_eq_some hlater

end State

/-- **A frame begins at a step of a log**: it exists from this step on, and not before. -/
def Log.Begins (log : Log) (id : FrameId) (place : Nat) : Prop :=
  ∀ step : Nat, ((State.atStep log.events step).frame? id).isSome = true ↔ place ≤ step

/-! ### The selection -/

/-- Whether an action of the user goes from frame to frame, or pins a frame or drops the pin. -/
def Action.selects : Action → Bool
  | .nextFrame | .previousFrame | .togglePin => true
  | _ => false

namespace Selection

variable {state : State} {event : Event} {id : FrameId}

/-- The selection stays with a pinned frame that exists, and leaves one that does not for the frame
of the last event. -/
theorem follow_pinned (last : state.lastEvent = some event) (id : FrameId) :
    (⟨some id, true⟩ : Selection).follow state =
      if (state.frame? id).isSome then ⟨some id, true⟩ else ⟨some event.frame, false⟩ := by
  cases hframe : (state.frame? id).isSome <;>
    simp [follow, resolve, Option.filter, hframe, last]

theorem afterAction_of_not_selects {action : Action} (h : action.selects = false)
    (selection : Selection) (state : State) : selection.afterAction state action = selection := by
  cases action with
  | nextFrame | previousFrame | togglePin => cases h
  | togglePlay | stepBack | stepForward | seekStart | seekEnd | speedUp | speedDown | restart
  | help | quit | unknown => rfl

end Selection

namespace App

variable {app next : App} {log : Log} {id : FrameId} {place : Nat}

/-- The user neither selects nor pins anything, and no other log is taken. -/
structure Round.LeavesSelection (round : Round) : Prop where
  loads : round.loads = []
  action : round.action.any Action.selects = false

/-- The view shows a frame that is pinned. -/
structure Turn.ShowsPinned (turn : Turn) (id : FrameId) : Prop where
  selection : turn.app.selection = ⟨some id, true⟩
  locals_frame : turn.view.locals.frame = some id

/-- The view shows the frame of the event under the cursor, and no frame is pinned. -/
def Turn.ShowsEvent (turn : Turn) : Prop :=
  ∃ event, turn.app.player.log.event? turn.view.status.step = some event ∧
    turn.app.selection = ⟨some event.frame, false⟩ ∧
    turn.view.locals.frame = some event.frame

/-- **The invariant**: a frame is pinned that had begun by the step that was shown last. -/
structure Pins (app : App) (log : Log) (id : FrameId) (place : Nat) : Prop where
  aimed : app.Aimed
  log_eq : app.player.log = log
  selection_eq : app.selection = ⟨some id, true⟩
  shown : ∃ step, app.shownStep = some step ∧ place ≤ step

/-! ### One view -/

/-- The locals of the selected frame are on show, if it exists. -/
theorem Coherent.locals_frame_view (h : app.Coherent)
    (selected : app.onlooker.nextSelection.selected = some id)
    (exists_ : (app.state.frame? id).isSome = true) : app.view.1.locals.frame = some id := by
  obtain ⟨frame, hframe⟩ := Option.isSome_iff_exists.1 exists_
  have resolves : app.onlooker.nextSelection.resolve app.state = some id :=
    Option.filter_eq_some_iff.2 ⟨selected, exists_⟩
  obtain ⟨hview, -, -⟩ := h.view
  rw [hview]
  exact (View.spotlights_build _ _ _ resolves hframe).locals_frame.trans
    (congrArg some (FrameTable.id_of_find? hframe))

namespace Pins

/-- The selection of the next view: the pin, if the frame has begun by the step under the cursor,
and otherwise the frame of the event there. -/
theorem nextSelection (h : app.Pins log id place) (begins : log.Begins id place) {event : Event}
    (hevent : app.player.log.event? app.player.cursor.step = some event) :
    app.onlooker.nextSelection =
      if place ≤ app.player.cursor.step then ⟨some id, true⟩ else ⟨some event.frame, false⟩ := by
  obtain ⟨step, hshown, hle⟩ := h.shown
  obtain ⟨hlast, -⟩ := State.lastEvent_atStep hevent
  have hselection : app.onlooker.selection = ⟨some id, true⟩ := h.selection_eq
  unfold Onlooker.nextSelection
  split
  · -- Nothing moved since the last view.
    next hsame =>
      obtain rfl := Option.some_inj.1 (hshown.symm.trans hsame)
      rw [hselection]
      exact (if_pos hle).symm
  · rw [hselection]
    refine (Selection.follow_pinned hlast id).trans (if_congr ?_ rfl rfl)
    rw [h.log_eq]
    exact begins app.player.cursor.step

/-- **A view at a step where the pinned frame exists** shows it, and keeps the invariant. -/
theorem holds (h : app.Pins log id place) (begins : log.Begins id place)
    (hle : place ≤ app.player.cursor.step) (previous : Option Nat) :
    Turn.ShowsPinned ⟨previous, app.view.1, app.view.2⟩ id ∧ app.view.2.Pins log id place := by
  obtain ⟨event, hevent⟩ := h.aimed.exists_event
  have hnext := h.nextSelection begins hevent
  rw [if_pos hle] at hnext
  obtain ⟨-, hplayer, hselection, hshown⟩ := h.aimed.coherent.parts_view
  have hexists : (app.state.frame? id).isSome = true := by
    rw [state, h.log_eq]
    exact (begins app.player.cursor.step).2 hle
  have hlocals := h.aimed.coherent.locals_frame_view (congrArg Selection.selected hnext) hexists
  exact ⟨⟨hselection.trans hnext, hlocals⟩, h.aimed.view.1, hplayer ▸ h.log_eq,
    hselection.trans hnext, _, hshown, hle⟩

/-- **A view at a step before** drops the pin, and shows the frame of the event. -/
theorem drops (h : app.Pins log id place) (begins : log.Begins id place)
    (hlt : app.player.cursor.step < place) (previous : Option Nat) :
    Turn.ShowsEvent ⟨previous, app.view.1, app.view.2⟩ := by
  obtain ⟨event, hevent⟩ := h.aimed.exists_event
  have hnext := h.nextSelection begins hevent
  rw [if_neg (Nat.not_le.2 hlt)] at hnext
  obtain ⟨hstep, hplayer, hselection, -⟩ := h.aimed.coherent.parts_view
  have hexists : (app.state.frame? event.frame).isSome = true := (State.lastEvent_atStep hevent).2
  have hlocals := h.aimed.coherent.locals_frame_view (congrArg Selection.selected hnext) hexists
  refine ⟨event, ?_, hselection.trans hnext, hlocals⟩
  rw [hplayer, hstep]
  exact hevent

end Pins

/-! ### Between the views -/

namespace Pins

/-- Letting time pass keeps the invariant. -/
theorem update (h : app.Pins log id place) {now : Nat} {outcome : TickOutcome}
    (hnext : app.update now = .ok (outcome, next)) : next.Pins log id place := by
  have aimed := h.aimed.update hnext
  obtain ⟨player, htick, rfl⟩ := exists_tick_of_update hnext
  exact ⟨aimed, (Player.log_tick htick).trans h.log_eq, h.selection_eq, h.shown⟩

/-- **An action that neither selects nor pins anything** keeps it after a view. -/
theorem act (h : app.Pins log id place) (shown : app.shownStep = some app.player.cursor.step)
    {action : Action} (hleaves : action.selects = false) :
    (app.act action).Pins log id place := by
  have hselection := h.aimed.coherent.selection_act action
  rw [Selection.afterAction_of_not_selects hleaves] at hselection
  exact ⟨h.aimed.act shown action, (log_act app action).trans h.log_eq,
    hselection.trans h.selection_eq, shownStep_act app action ▸ h.shown⟩

theorem elim_act (h : app.Pins log id place)
    (shown : app.shownStep = some app.player.cursor.step) {action : Option Action}
    (hleaves : action.any Action.selects = false) :
    (action.elim app app.act).Pins log id place := by
  cases action with
  | none => exact h
  | some action => exact h.act shown hleaves

/-! ### Rounds -/

/-- As long as all views show steps at which the pinned frame exists, the next one finds it
pinned. -/
theorem of_turns (h : app.Pins log id place) (begins : log.Begins id place)
    {rounds : List Round} (leaves : ∀ round ∈ rounds, round.LeavesSelection)
    {held rest : List Turn} {turn : Turn} {before : Option Nat}
    (hturns : turns before app rounds = held ++ turn :: rest)
    (hheld : ∀ earlier ∈ held, place ≤ earlier.view.status.step) :
    ∃ last : App, last.Pins log id place ∧ turn.view = last.view.1 ∧ turn.app = last.view.2 := by
  induction rounds generalizing app held before with
  | nil => exact absurd hturns.symm (List.append_ne_nil_of_right_ne_nil _ (List.cons_ne_nil _ _))
  | cons round others ih =>
      obtain ⟨⟨hloads, haction⟩, hothers⟩ := List.forall_mem_cons.1 leaves
      cases hupdate : (round.loads.foldl App.load app).update round.now with
      | error fault =>
          rw [turns, hupdate] at hturns
          exact absurd hturns.symm (List.append_ne_nil_of_right_ne_nil _ (List.cons_ne_nil _ _))
      | ok result =>
          have hnow : result.2.Pins log id place := h.update (hloads ▸ hupdate)
          rw [turns_cons hupdate] at hturns
          cases held with
          | nil =>
              obtain ⟨hturn, -⟩ := List.cons.inj hturns
              exact ⟨result.2, hnow, hturn ▸ rfl, hturn ▸ rfl⟩
          | cons first held =>
              obtain ⟨hfirst, hafter⟩ := List.cons.inj hturns
              obtain ⟨hplace, hlater⟩ := List.forall_mem_cons.1 hheld
              obtain ⟨hstep, hplayer, -, hshown⟩ := hnow.aimed.coherent.parts_view
              subst hfirst
              have hle : place ≤ result.2.player.cursor.step := hstep ▸ hplace
              have hview : result.2.view.2.Pins log id place := (hnow.holds begins hle none).2
              have hnext := hview.elim_act (hplayer ▸ hshown) haction
              split at hafter
              · exact absurd hafter.symm
                  (List.append_ne_nil_of_right_ne_nil _ (List.cons_ne_nil _ _))
              · exact ih hnext hothers hafter hlater

end Pins

/-- Whatever is done to a viewer, player and navigator stay on one log. -/
theorem Coherent.performAll (h : app.Coherent) {operations : List Operation}
    (hnext : app.performAll operations = .ok next) : next.Coherent := by
  refine performAll_keeps (fun {app _ operation _} hcoherent hperform => ?_) h hnext
  rcases hcoherent.perform operation with ⟨fault, hfault, -⟩ | ⟨view, next, hnext, -, hkept⟩
  · cases hfault.symm.trans hperform
  · cases hnext.symm.trans hperform
    exact hkept

/-- **How long a pin holds.**  Whatever was done to a viewer on whichever logs before, a frame that
is pinned and exists at the step that was shown last stays pinned and on show, as long as no view
shows a step before the one where the frame began; and the first view that does so has dropped the
pin, and shows the frame of the event under the cursor.  The time, the playback and the keys may
move the cursor back and forth as they like, as long as the user neither goes from frame to frame
nor pins anything and no other log is taken. -/
theorem pin_holds_or_drops {pacing : Pacing} {interval : Nat} {history : List Operation}
    (hhistory : (ofLog log pacing interval).performAll history = .ok app)
    (hpin : app.selection = ⟨some id, true⟩) {step : Nat} (hshown : app.shownStep = some step)
    {frame : Frame} (hframe : (State.atStep app.player.log.events step).frame? id = some frame)
    {rounds : List Round} (leaves : ∀ round ∈ rounds, round.LeavesSelection)
    {held rest : List Turn} {turn : Turn}
    (hturns : turns app.shownStep app rounds = held ++ turn :: rest)
    (hheld : ∀ earlier ∈ held, frame.createdAt ≤ earlier.view.status.step) :
    (frame.createdAt ≤ turn.view.status.step → turn.ShowsPinned id) ∧
      (turn.view.status.step < frame.createdAt → turn.ShowsEvent) := by
  have begins : app.player.log.Begins id frame.createdAt := fun step =>
    (State.isSome_frame?_atStep_iff hframe step).trans Int.ofNat_le
  obtain ⟨event, hevent, -, hle⟩ := State.exists_event_createdAt hframe
  have aimed : app.Aimed := by
    refine ⟨(coherent_ofLog log pacing interval).performAll hhistory,
      List.ne_nil_of_mem (List.mem_of_getElem? hevent), fun same hsame => ?_⟩
    obtain rfl := Option.some_inj.1 (hshown.symm.trans hsame)
    rw [hpin]
    exact Selection.isSome_resolve_iff.2 ⟨id, rfl, Option.isSome_of_eq_some hframe⟩
  have pins : app.Pins app.player.log id frame.createdAt :=
    ⟨aimed, rfl, hpin, step, hshown, Int.ofNat_le.1 hle⟩
  obtain ⟨last, hlast, hview, happ⟩ := pins.of_turns begins leaves hturns hheld
  have hturn : turn = ⟨turn.previous, last.view.1, last.view.2⟩ := by
    rw [← hview, ← happ]
  obtain ⟨hstep, -⟩ := hlast.aimed.coherent.parts_view
  rw [hview, hstep, hturn]
  exact ⟨fun hle => (hlast.holds begins hle _).1, fun hlt => hlast.drops begins hlt _⟩

/-- A viewer that goes on to the inner call and pins it. -/
def innerPinned : List Operation := [.view, .act .stepForward, .view, .act .togglePin]

/-- Rounds that go to the end, back to the inner call, stay there once, and go to the start. -/
def endAndStart : List Round :=
  [⟨[], 0, some .seekEnd⟩, ⟨[], 1, some .stepBack⟩, ⟨[], 2, some .help⟩, ⟨[], 3, some .seekStart⟩,
    ⟨[], 4, some .quit⟩]

/-- At the fourth view the inner call still is pinned; the fifth one, of the first step, gives way
to the outer call. -/
theorem pin_holds_or_drops_endAndStart :
    ∃ app frame held fourth fifth,
      (ofLog calledInside .standard 1).performAll innerPinned = .ok app ∧
      app.selection = ⟨some 2, true⟩ ∧ app.shownStep = some 1 ∧
      (State.atStep app.player.log.events 1).frame? 2 = some frame ∧ frame.createdAt = 1 ∧
      (∀ round ∈ endAndStart, round.LeavesSelection) ∧
      turns app.shownStep app endAndStart = held ++ [fourth, fifth] ∧
      held.map (fun turn => turn.view.status.step) = [1, 2, 1] ∧
      fourth.view.status.step = 1 ∧ fourth.ShowsPinned 2 ∧
      fifth.view.status.step = 0 ∧ fifth.ShowsEvent := by
  have hend : ((ofLog calledInside .standard 1).performAll innerPinned).toOption.map (fun app =>
      (app.selection, app.shownStep,
        ((State.atStep app.player.log.events 1).frame? 2).map Frame.createdAt,
        (turns app.shownStep app endAndStart).map fun turn => turn.view.status.step)) =
        some (⟨some 2, true⟩, some 1, some 1, [1, 2, 1] ++ [1, 0]) := by
    decide +kernel
  have hleaves : ∀ round ∈ endAndStart, round.LeavesSelection := by
    simp only [endAndStart, List.forall_mem_cons]
    exact ⟨⟨rfl, rfl⟩, ⟨rfl, rfl⟩, ⟨rfl, rfl⟩, ⟨rfl, rfl⟩, ⟨rfl, rfl⟩, List.forall_mem_nil _⟩
  cases hrun : (ofLog calledInside .standard 1).performAll innerPinned with
  | error fault => rw [hrun] at hend; cases hend
  | ok app =>
      rw [hrun] at hend
      obtain ⟨hselection, hrest⟩ := Prod.mk.inj (Option.some.inj hend)
      obtain ⟨hshown, hrest⟩ := Prod.mk.inj hrest
      obtain ⟨hframe, hsteps⟩ := Prod.mk.inj hrest
      obtain ⟨frame, hframe, hcreated⟩ := Option.map_eq_some_iff.1 hframe
      obtain ⟨held, last, hturns, hheld, hlast⟩ := List.map_eq_append_iff.1 hsteps
      obtain ⟨fourth, last, rfl, hfourth, hlast⟩ := List.map_eq_cons_iff.1 hlast
      obtain ⟨fifth, rfl, hfifth⟩ := List.map_eq_singleton_iff.1 hlast
      have hearlier : ∀ turn ∈ held, frame.createdAt ≤ turn.view.status.step := by
        intro turn hturn
        have hstep := List.mem_map_of_mem (f := fun turn => turn.view.status.step) hturn
        rw [hheld] at hstep
        rw [hcreated]
        exact (by decide : ∀ step ∈ [1, 2, 1], 1 ≤ step) _ hstep
      have holds := pin_holds_or_drops hrun hselection hshown hframe hleaves hturns hearlier
      have hlater : ∀ turn ∈ held ++ [fourth], frame.createdAt ≤ turn.view.status.step :=
        List.forall_mem_append.2 ⟨hearlier, List.forall_mem_singleton.2 (by omega)⟩
      have drops := pin_holds_or_drops hrun hselection hshown hframe hleaves
        (hturns.trans (List.append_cons held fourth [fifth])) hlater
      exact ⟨app, frame, held, fourth, fifth, rfl, hselection, hshown, hframe, hcreated, hleaves,
        hturns, hheld, hfourth, holds.1 (by omega), hfifth, drops.2 (by omega)⟩

end App

end TracePlayer
