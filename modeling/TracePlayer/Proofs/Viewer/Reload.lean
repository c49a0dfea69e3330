/-
**A new log leaves nothing of the old one.**

A viewer that takes another log goes on with the pace it was opened with, with the distance between
its checkpoints and with the speed of the playback.  Nothing else of what happened before can be
seen again: what it shows from then on is what a viewer shows that is opened on the new log, at
that speed.

Main definitions:

* `App.performAll`: what some operations make of a viewer;
* `App.Sight`, `App.observations`: all that can be seen of a viewer, one operation after the other;
* `App.opened`: a viewer opened on a log and set to a speed;
* `App.Configured`: **the invariant**, what a viewer keeps of what it was opened with;
* `App.Alike`: two viewers differ in nothing that can be seen.

Main results:

* `App.performAll_keeps`: what every operation keeps, any number of them keep;
* `App.Configured.performAll`: whatever is done to a viewer, it keeps what it was opened with;
* `App.Alike.observe`, `App.Alike.observations`: viewers that are alike show the same, and stay so;
* `App.observations_load`: **a viewer that takes a log shows what a viewer shows that is opened on
  it**.
-/
import TracePlayer.Proofs.Playback.Speed
import TracePlayer.Proofs.Viewer.Onlooker

set_option autoImplicit false

namespace TracePlayer

namespace App

variable {app a b : App} {pacing : Pacing} {interval : Nat}

/-! ### What a viewer keeps -/

/-- A viewer after one operation. -/
def after (app : App) (operation : Operation) : Except DurationOverflow App :=
  (app.perform operation).map Prod.snd

/-- A viewer after some operations. -/
def performAll (app : App) (operations : List Operation) : Except DurationOverflow App :=
  operations.foldlM after app

/-- What every operation keeps, any number of them keep. -/
theorem performAll_keeps {P : App → Prop}
    (keeps : ∀ {app next : App} {operation : Operation} {view : Option View},
      P app → app.perform operation = .ok (view, next) → P next)
    (h : P app) {operations : List Operation} {next : App}
    (hnext : app.performAll operations = .ok next) : P next := by
  induction operations generalizing app with
  | nil =>
      obtain rfl := Except.ok.inj hnext
      exact h
  | cons operation rest ih =>
      rw [performAll, List.foldlM_cons, after] at hnext
      cases hfirst : app.perform operation with
      | error fault => simp [hfirst, Except.map, bind, Except.bind] at hnext
      | ok result =>
          rw [hfirst] at hnext
          exact ih (keeps h hfirst) hnext

/-- **What a viewer keeps** of what it was opened with. -/
structure Configured (app : App) (pacing : Pacing) (interval : Nat) : Prop where
  player : app.player.KeepsTo pacing
  interval_eq : app.navigator.interval = interval

namespace Configured

theorem ofLog (log : Log) (pacing : Pacing) (interval : Nat) :
    (ofLog log pacing interval).Configured pacing interval :=
  ⟨.ofLog log pacing, rfl⟩

theorem act (h : app.Configured pacing interval) (action : Action) :
    (app.act action).Configured pacing interval := by
  cases hcommand : action.command? with
  | some command =>
      rw [(Coherent.act_of_command app hcommand).1]
      exact ⟨h.player.obey command, h.interval_eq⟩
  | none =>
      cases action with
      | nextFrame | previousFrame =>
          exact ⟨h.player, (app.navigator.interval_stateAt _).trans h.interval_eq⟩
      | togglePin | help | quit | unknown => exact ⟨h.player, h.interval_eq⟩
      | togglePlay | stepBack | stepForward | seekStart | seekEnd | speedUp | speedDown
      | restart => cases hcommand

/-- Every operation keeps it. -/
theorem perform (h : app.Configured pacing interval) {operation : Operation} {view : Option View}
    {next : App} (hnext : app.perform operation = .ok (view, next)) :
    next.Configured pacing interval := by
  cases operation with
  | act action =>
      obtain ⟨-, rfl⟩ := Prod.mk.inj (Except.ok.inj hnext)
      exact h.act action
  | autoplay =>
      obtain ⟨-, rfl⟩ := Prod.mk.inj (Except.ok.inj hnext)
      exact ⟨h.player.play, h.interval_eq⟩
  | update now =>
      simp only [App.perform, App.update] at hnext
      cases htick : app.player.tick now with
      | error fault => simp [htick, Except.map] at hnext
      | ok result =>
          simp only [htick, Except.map, Except.ok.injEq, Prod.mk.injEq] at hnext
          obtain ⟨-, rfl⟩ := hnext
          exact ⟨h.player.tick htick, h.interval_eq⟩
  | view =>
      obtain ⟨-, rfl⟩ := Prod.mk.inj (Except.ok.inj hnext)
      refine ⟨h.player, Eq.trans ?_ h.interval_eq⟩
      exact ((app.navigator.changeAt _).2.interval_stateAt _).trans
        (app.navigator.interval_changeAt _)
  | load log =>
      obtain ⟨-, rfl⟩ := Prod.mk.inj (Except.ok.inj hnext)
      exact ⟨h.player.obey (.load log), h.interval_eq⟩

/-- **Whatever is done to a viewer, it keeps what it was opened with.** -/
theorem performAll (h : app.Configured pacing interval) {operations : List Operation} {next : App}
    (hnext : app.performAll operations = .ok next) : next.Configured pacing interval :=
  performAll_keeps (P := (Configured · pacing interval)) (fun h hnext => h.perform hnext) h hnext

end Configured

/-! ### What can be seen -/

/-- All that can be seen of a viewer after an operation. -/
structure Sight where
  /-- The view, if it was asked for. -/
  view : Option View
  /-- What the tick did, if time went on. -/
  outcome : Option TickOutcome
  /-- The place of the playback. -/
  cursor : Cursor
  /-- The selected frame, and whether it is pinned. -/
  selection : Selection
  /-- How the questions about the log were answered so far. -/
  stats : Navigator.Stats

/-- What the tick of an operation does, if it is one. -/
def outcome? (app : App) : Operation → Option TickOutcome
  | .update now => (app.update now).toOption.map Prod.fst
  | _ => none

/-- One operation: all that can be seen after it, and the viewer afterwards. -/
def observe (app : App) (operation : Operation) : Except DurationOverflow (Sight × App) :=
  (app.perform operation).map fun (view, next) =>
    (⟨view, app.outcome? operation, next.player.cursor, next.selection, next.navigator.stats⟩, next)

/-- All that can be seen during some operations, one after the other. -/
def observations (app : App) : List Operation → Except DurationOverflow (List Sight)
  | [] => .ok []
  | operation :: rest => do
      let (sight, next) ← app.observe operation
      let others ← next.observations rest
      return sight :: others

/-- A viewer opened on a log, and set to a speed before anything else. -/
def opened (log : Log) (pacing : Pacing) (interval : Nat) (speed : Binary64) : App :=
  { ofLog log pacing interval with player := (Player.ofLog log pacing).setSpeed speed }

/-- **Two viewers differ in nothing that can be seen**: at most in whether the keys are on show, and
whether the user asked to leave. -/
def Alike (a b : App) : Prop :=
  ∃ showHelp quitting, b = { a with showHelp := showHelp, quitting := quitting }

namespace Alike

/-- **Viewers that are alike show the same, and stay alike**; both break off together. -/
theorem observe (h : a.Alike b) (operation : Operation) :
    (∃ fault, a.observe operation = .error fault ∧ b.observe operation = .error fault) ∨
    ∃ sight nextA nextB, a.observe operation = .ok (sight, nextA) ∧
      b.observe operation = .ok (sight, nextB) ∧ nextA.Alike nextB := by
  obtain ⟨showHelp, quitting, rfl⟩ := h
  cases operation with
  | act action => cases action <;> exact .inr ⟨_, _, _, rfl, rfl, _, _, rfl⟩
  | autoplay => exact .inr ⟨_, _, _, rfl, rfl, _, _, rfl⟩
  | update now =>
      simp only [App.observe, App.perform, App.update, App.outcome?]
      cases htick : a.player.tick now with
      | error fault => exact .inl ⟨fault, rfl, rfl⟩
      | ok result => exact .inr ⟨_, _, _, rfl, rfl, _, _, rfl⟩
  | view => exact .inr ⟨_, _, _, rfl, rfl, _, _, rfl⟩
  | load log => exact .inr ⟨_, _, _, rfl, rfl, _, _, rfl⟩

/-- So they show the same during any operations. -/
theorem observations (h : a.Alike b) (operations : List Operation) :
    a.observations operations = b.observations operations := by
  induction operations generalizing a b with
  | nil => rfl
  | cons operation rest ih =>
      rcases h.observe operation with ⟨fault, ha, hb⟩ | ⟨sight, nextA, nextB, ha, hb, hnext⟩
      · simp only [App.observations, ha, hb, bind, Except.bind]
      · simp only [App.observations, ha, hb, bind, Except.bind, ih hnext]

end Alike

/-- Taking a log and being opened on it comes to the same. -/
theorem Configured.alike_load (h : app.Configured pacing interval) (log : Log) :
    (app.load log).Alike (opened log pacing interval app.player.cursor.speed) := by
  obtain ⟨⟨hpacing, hspeed⟩, hinterval⟩ := h
  refine ⟨false, false, ?_⟩
  subst hpacing hinterval
  simp only [opened, App.ofLog, App.load, Player.ofLog, Player.setSpeed, Player.load, hspeed]
  rfl

/-- **A viewer that takes a log shows what a viewer shows that is opened on it**, with the same pace
and the same distance between checkpoints, and set to the speed of the playback, whatever was done
to the first one on earlier logs. -/
theorem observations_load {log : Log} {history : List Operation}
    (h : (ofLog log pacing interval).performAll history = .ok app) (next : Log)
    (operations : List Operation) :
    (app.load next).observations operations
      = (opened next pacing interval app.player.cursor.speed).observations operations :=
  (((Configured.ofLog log pacing interval).performAll h).alike_load next).observations operations

/-- A viewer that played, pinned a frame, went back, asked for the keys and sped up. -/
def pinnedAndBack : List Operation :=
  [.autoplay, .update 0, .update 400000000, .view, .act .togglePin, .act .stepBack, .view,
    .act .help, .act .speedUp]

/-- A log of a call and a line in it. -/
def calledOnce : Log :=
  { Log.empty ⟨"called"⟩ with events := [.plain 0 .call 4, .plain 1 .line 4] }

/-- A viewer with a pinned frame and a move backwards behind it takes another log while it plays. -/
theorem observations_load_pinnedAndBack :
    ∃ app, (ofLog Player.threeLines .standard 1).performAll pinnedAndBack = .ok app ∧
      app.selection = ⟨some 1, true⟩ ∧ app.player.cursor.playing = true ∧
      app.navigator.stats.rewinds = 1 ∧
      (app.load calledOnce).observations [.view, .autoplay, .update 9, .update 400000009, .view] =
        (opened calledOnce .standard 1 app.player.cursor.speed).observations
          [.view, .autoplay, .update 9, .update 400000009, .view] := by
  have hend : ((ofLog Player.threeLines .standard 1).performAll pinnedAndBack).toOption.map
      (fun app => (app.selection, app.player.cursor.playing, app.navigator.stats.rewinds)) =
        some (⟨some 1, true⟩, true, 1) := by
    decide +kernel
  cases hrun : (ofLog Player.threeLines .standard 1).performAll pinnedAndBack with
  | error fault => rw [hrun] at hend; cases hend
  | ok app =>
      rw [hrun] at hend
      obtain ⟨hselection, hrest⟩ := Prod.mk.inj (Option.some.inj hend)
      obtain ⟨hplaying, hrewinds⟩ := Prod.mk.inj hrest
      exact ⟨app, rfl, hselection, hplaying, hrewinds, observations_load hrun _ _⟩

end App

end TracePlayer
