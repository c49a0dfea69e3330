/-
**Runs of a player.**

A run is any sequence of commands and ticks, at any times.  It ends early only at a wait that is
longer than a duration can be; up to there the cursor, the play state and the time from which a
wait counts agree with each other.

Main definitions:

* `Player.Action`, `Player.perform`: a command or a tick, and what it makes of a player;
* `Player.performAll`: what a run makes of a player;
* `Player.Orderly`: everything that can be relied on after a run.

Main results:

* `Player.performAll_keeps`: what every action keeps, a run keeps;
* `Player.Sound.performAll`: a run keeps the invariant of a player;
* `Player.orderly_of_performAll`: **every run leaves an orderly player**.
-/
import TracePlayer.Proofs.Playback.Step

set_option autoImplicit false

namespace TracePlayer.Player

/-! ### Runs -/

/-- What can happen to a player. -/
inductive Action where
  | command (command : Command)
  | tick (now : Nat)

/-- A player after an action; a tick breaks off at a wait that is longer than a duration can be. -/
def perform (player : Player) : Action → Except DurationOverflow Player
  | .command command => .ok (player.obey command).2
  | .tick now => (player.tick now).map Prod.snd

/-- A player after a run. -/
def performAll (player : Player) (actions : List Action) : Except DurationOverflow Player :=
  actions.foldlM perform player

variable {player next : Player} {now : Nat} {outcome : TickOutcome} {action : Action}
  {actions : List Action}

theorem perform_tick_eq_ok_iff :
    player.perform (.tick now) = .ok next ↔ ∃ outcome, player.tick now = .ok (outcome, next) := by
  cases htick : player.tick now with
  | error fault => simp [perform, htick, Except.map]
  | ok result => simp [perform, htick, Except.map, Prod.ext_iff]

@[simp] theorem performAll_nil_eq_ok_iff : player.performAll [] = .ok next ↔ player = next :=
  Except.ok.injEq player next ▸ Iff.rfl

theorem performAll_cons_eq_ok_iff :
    player.performAll (action :: actions) = .ok next ↔
      ∃ middle, player.perform action = .ok middle ∧ middle.performAll actions = .ok next := by
  unfold performAll
  rw [List.foldlM_cons]
  cases player.perform action with
  | error fault => simp [bind, Except.bind]
  | ok middle => simp [bind, Except.bind]

theorem performAll_append_eq_ok_iff {first second : List Action} :
    player.performAll (first ++ second) = .ok next ↔
      ∃ middle, player.performAll first = .ok middle ∧ middle.performAll second = .ok next := by
  induction first generalizing player with
  | nil => simp
  | cons action rest ih =>
      simp only [List.cons_append, performAll_cons_eq_ok_iff, ih]
      constructor
      · rintro ⟨early, haction, middle, hrest, hsecond⟩
        exact ⟨middle, ⟨early, haction, hrest⟩, hsecond⟩
      · rintro ⟨middle, ⟨early, haction, hrest⟩, hsecond⟩
        exact ⟨early, haction, middle, hrest, hsecond⟩

/-- **What every action keeps, a run keeps**, also if it is kept by some actions only and the run
consists of such actions. -/
theorem performAll_keeps {Kept : Player → Prop} {Allowed : Action → Prop}
    (keeps : ∀ {player action next}, Allowed action → Kept player →
      player.perform action = .ok next → Kept next)
    (allowed : ∀ action ∈ actions, Allowed action) (kept : Kept player)
    (h : player.performAll actions = .ok next) : Kept next := by
  induction actions generalizing player with
  | nil => exact performAll_nil_eq_ok_iff.1 h ▸ kept
  | cons action rest ih =>
      obtain ⟨middle, hfirst, hrest⟩ := performAll_cons_eq_ok_iff.1 h
      obtain ⟨hallowed, hothers⟩ := List.forall_mem_cons.1 allowed
      exact ih hothers (keeps hallowed kept hfirst) hrest

/-! ### The invariant along a run -/

namespace Sound

/-- Every action keeps the invariant. -/
theorem perform (sound : player.Sound) (h : player.perform action = .ok next) : next.Sound := by
  cases action with
  | command command => exact Except.ok.inj h ▸ sound.obey command
  | tick now =>
      obtain ⟨outcome, htick⟩ := perform_tick_eq_ok_iff.1 h
      exact sound.tick htick

/-- A run keeps the invariant. -/
theorem performAll (sound : player.Sound) (h : player.performAll actions = .ok next) :
    next.Sound :=
  performAll_keeps (fun (_ : True) sound h => Sound.perform sound h) (fun _ _ => trivial) sound h

/-- The cursor is on the last step of the log once there is no next event. -/
theorem step_eq_maxStep (sound : player.Sound)
    (h : player.log.event? (player.cursor.step + 1) = none) :
    player.cursor.step = player.maxStep := by
  have hlength : player.log.events.length ≤ player.cursor.step + 1 := List.getElem?_eq_none_iff.1 h
  have hle := sound.step_le
  unfold Player.maxStep Log.maxStep at *
  omega

/-- **What a tick does to a playback that runs**: it moves the cursor by at most one step, and
stops the playback exactly when it leaves the cursor on the last one. -/
theorem tick_playing (sound : player.Sound) (playing : player.cursor.playing = true)
    (h : player.tick now = .ok (outcome, next)) :
    (next.cursor.step = player.cursor.step ∨ next.cursor.step = player.cursor.step + 1) ∧
      (next.cursor.playing = false ↔ next.cursor.step = next.maxStep) := by
  cases tick_eq_ok_iff.1 h with
  | idle stopped => rw [playing] at stopped; cases stopped
  | stop _ last => exact ⟨.inl rfl, iff_of_true rfl (sound.step_eq_maxStep last)⟩
  | wait _ force =>
      have hlt := force.lt_length
      refine ⟨.inl rfl, iff_of_false (by simp [playing]) (Nat.ne_of_lt ?_)⟩
      exact Nat.lt_sub_of_add_lt hlt
  | finish _ force _ last =>
      have hle := (stepped force playing now).step_le
      exact ⟨.inr rfl, iff_of_true rfl (Nat.le_antisymm hle last)⟩
  | advance _ _ _ more =>
      exact ⟨.inr rfl, iff_of_false (ne_false_of_eq_true playing) (Nat.ne_of_lt more)⟩

end Sound

/-! ### The play state -/

/-- Whether a command is one of those that start and stop the playback. -/
def Command.setsPlaying : Command → Bool
  | .play | .pause | .toggle | .load _ => true
  | .seek _ | .seekEnd | .stepForward | .stepBack | .setSpeed _ | .speedUp | .speedDown
  | .restart => false

/-- No other command starts or stops it. -/
theorem playing_obey (player : Player) {command : Command} (h : command.setsPlaying = false) :
    (player.obey command).2.cursor.playing = player.cursor.playing := by
  cases command with
  | play | pause | toggle | load _ => cases h
  | seek _ | seekEnd | stepForward | stepBack | setSpeed _ | speedUp | speedDown | restart => rfl

theorem fst_play (player : Player) : player.play.1 = player.play.2.cursor.playing := by
  unfold play
  split
  · next hplaying => exact hplaying.symm
  · next hplaying =>
      split
      · exact (eq_false_of_ne_true hplaying).symm
      · rfl

theorem fst_toggle (player : Player) : player.toggle.1 = player.toggle.2.cursor.playing := by
  unfold toggle
  split
  · rfl
  · exact player.fst_play

/-! ### Everything after a run -/

/-- Everything that can be relied on after a run. -/
structure Orderly (player : Player) : Prop where
  /-- The cursor is inside the log. -/
  step_le : player.cursor.step ≤ player.maxStep
  /-- Only a playback that runs counts a wait. -/
  baseline_eq_none : player.cursor.playing = false → player.baseline = none
  /-- No command but four changes whether the playback runs. -/
  playing_obey : ∀ command : Command, command.setsPlaying = false →
    (player.obey command).2.cursor.playing = player.cursor.playing
  /-- Starting tells whether the playback runs now. -/
  obey_play : (player.obey .play).1 = some (player.obey .play).2.cursor.playing
  /-- So does toggling. -/
  obey_toggle : (player.obey .toggle).1 = some (player.obey .toggle).2.cursor.playing
  /-- A tick while the playback does not run changes nothing. -/
  tick_stopped : player.cursor.playing = false → ∀ now, player.tick now = .ok (.idle, player)
  /-- A tick while it runs moves the cursor by at most one step, and stops the playback exactly
  when it leaves the cursor on the last one. -/
  tick_playing : player.cursor.playing = true → ∀ now outcome next,
    player.tick now = .ok (outcome, next) →
      (next.cursor.step = player.cursor.step ∨ next.cursor.step = player.cursor.step + 1) ∧
        (next.cursor.playing = false ↔ next.cursor.step = next.maxStep)

/-- **Every run leaves an orderly player**, whatever the log and the pace it began with. -/
theorem orderly_of_performAll {log : Log} {pacing : Pacing}
    (h : (ofLog log pacing).performAll actions = .ok player) : player.Orderly := by
  have sound : player.Sound := (sound_ofLog log pacing).performAll h
  exact
    { step_le := sound.step_le
      baseline_eq_none := sound.baseline_eq_none
      playing_obey := fun _ => player.playing_obey
      obey_play := congrArg some player.fst_play
      obey_toggle := congrArg some player.fst_toggle
      tick_stopped := fun stopped now => by simp [tick, stopped]
      tick_playing := fun playing _ _ _ => sound.tick_playing playing }

/-- A log of three lines of one frame, with no time between them. -/
def threeLines : Log :=
  { Log.empty ⟨"three"⟩ with events := [.plain 0 .line 1, .plain 1 .line 1, .plain 2 .line 1] }

/-- At the usual speed, no time takes no time. -/
theorem scaled_zero_standard :
    Delta.scaled 0 (Pacing.standard.usable Pacing.standard.defaultSpeed) = .ok 0 := by
  have hdecided : (Delta.scaled 0 (Pacing.standard.usable Pacing.standard.defaultSpeed)).toOption =
      some 0 := by
    decide +kernel
  cases hscaled : Delta.scaled 0 (Pacing.standard.usable Pacing.standard.defaultSpeed) with
  | error fault => rw [hscaled] at hdecided; cases hdecided
  | ok span => rw [hscaled] at hdecided; exact congrArg Except.ok (Option.some.inj hdecided)

/-- A run through three lines that seeks past the end while the playback runs. -/
def seekingRun : List Action :=
  [.command .play, .tick 0, .tick 400000000, .command (.seek 7), .command .stepBack,
    .tick 800000000]

/-- This run takes the last step twice, and stops there. -/
theorem orderly_seekingRun :
    ∃ player, (ofLog threeLines .standard).performAll seekingRun = .ok player ∧
      player.cursor.step = 2 ∧ player.cursor.playing = false ∧ player.Orderly := by
  have hend : ((ofLog threeLines .standard).performAll seekingRun).toOption.map
      (fun player => (player.cursor.step, player.cursor.playing)) = some (2, false) := by
    decide +kernel
  cases hrun : (ofLog threeLines .standard).performAll seekingRun with
  | error fault => rw [hrun] at hend; cases hend
  | ok player =>
      rw [hrun] at hend
      obtain ⟨hstep, hplaying⟩ := Prod.mk.inj (Option.some.inj hend)
      exact ⟨player, rfl, hstep, hplaying, orderly_of_performAll hrun⟩

end TracePlayer.Player
