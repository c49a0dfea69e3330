/-
**What a tick reports of the cursor.**

A tick that moves the cursor says so, and a tick that waits or finds the playback stopped says that
it did not.  There is one place where the report and the cursor disagree: a command may put the
cursor on the last step while the playback runs.  The next tick stops the playback there and reports
the last step as one that it moved to.

Main definitions:

* `Player.Overruns`: the playback runs although the cursor is on the last step already.

Main results:

* `Player.Overruns.tick`: what every tick does then;
* `Player.Sound.moved_iff`: the report of any one tick against the cursor;
* `Player.moved_tick_iff`: **after every run, a tick says that the cursor moved if and only if it
  did, or the playback ran on the last step**.
-/
import TracePlayer.Proofs.Playback.Run

set_option autoImplicit false

namespace TracePlayer.Player

variable {player next : Player} {now : Nat} {outcome : TickOutcome} {actions : List Action}

/-- The playback runs although the cursor is on the last step already. -/
structure Overruns (player : Player) : Prop where
  playing : player.cursor.playing = true
  last : player.cursor.step = player.maxStep

/-- While a wait is in force, the last step is not reached. -/
theorem WaitInForce.not_overruns {wait : Nat} (force : player.WaitInForce wait) :
    ¬ player.Overruns := by
  intro h
  have hlt := force.lt_length
  have hlast := h.last
  unfold maxStep Log.maxStep at hlast
  omega

/-- Every tick stops it there, and reports the last step. -/
theorem Overruns.tick (h : player.Overruns) (now : Nat) :
    player.tick now = .ok (.finished player.maxStep, player.stopped) := by
  have hnone : player.log.event? (player.cursor.step + 1) = none := by
    refine List.getElem?_eq_none ?_
    have hlast := h.last
    unfold maxStep Log.maxStep at hlast
    omega
  rw [← h.last]
  exact tick_eq_ok_iff.2 (.stop h.playing hnone)

/-- The report of one tick against the cursor, by cases on what the tick can do. -/
theorem Sound.moved_iff (sound : player.Sound) (h : player.tick now = .ok (outcome, next)) :
    outcome.moved = true ↔ next.cursor.step ≠ player.cursor.step ∨ player.Overruns := by
  cases tick_eq_ok_iff.1 h with
  | idle stopped =>
      have hnot : ¬ player.Overruns := by
        intro hover
        rw [hover.playing] at stopped
        cases stopped
      simp [TickOutcome.moved, hnot]
  | stop playing last =>
      -- The one report of a move without a move.
      have hover : player.Overruns := ⟨playing, sound.step_eq_maxStep last⟩
      exact iff_of_true rfl (.inr hover)
  | wait playing force early =>
      simp [TickOutcome.moved, force.not_overruns]
  | finish | advance =>
      have hmoved : player.cursor.step + 1 ≠ player.cursor.step := by omega
      exact iff_of_true rfl (.inl hmoved)

/-- **After every run, a tick says that the cursor moved if and only if it did, or the playback ran
on the last step**; there every tick says so, and leaves the cursor where it is. -/
theorem moved_tick_iff {log : Log} {pacing : Pacing}
    (h : (ofLog log pacing).performAll actions = .ok player) :
    (∀ now outcome next, player.tick now = .ok (outcome, next) →
      (outcome.moved = true ↔ next.cursor.step ≠ player.cursor.step ∨ player.Overruns)) ∧
    (player.Overruns → ∀ now, ∃ outcome next, player.tick now = .ok (outcome, next) ∧
      outcome.moved = true ∧ next.cursor.step = player.cursor.step) := by
  have sound : player.Sound := (sound_ofLog log pacing).performAll h
  constructor
  · intro now outcome next htick
    exact sound.moved_iff htick
  · intro hover now
    exact ⟨_, _, hover.tick now, rfl, rfl⟩

/-- A run that starts the playback of three lines and puts its cursor on the last one. -/
def overrunning : List Action := [.command .play, .command .seekEnd]

/-- The player that this run leaves. -/
def overrun : Player := (ofLog threeLines .standard).play.2.seekEnd

theorem performAll_overrunning :
    (ofLog threeLines .standard).performAll overrunning = .ok overrun := rfl

theorem overruns_overrun : overrun.Overruns := ⟨rfl, rfl⟩

theorem moved_tick_iff_overrunning :
    (ofLog threeLines .standard).performAll overrunning = .ok overrun ∧ overrun.Overruns ∧
      (∃ outcome next, overrun.tick 5 = .ok (outcome, next) ∧ outcome.moved = true ∧
        next.cursor.step = overrun.cursor.step) ∧
      ∀ outcome next, overrun.tick 5 = .ok (outcome, next) →
        (outcome.moved = true ↔
          next.cursor.step ≠ overrun.cursor.step ∨ overrun.Overruns) := by
  obtain ⟨hreport, hmoved⟩ := moved_tick_iff performAll_overrunning
  exact ⟨performAll_overrunning, overruns_overrun, hmoved overruns_overrun 5, hreport 5⟩

/-- **A tick that says that the cursor moved, and leaves it where it was.** -/
theorem tick_overrunning :
    ∃ player outcome next,
      (ofLog threeLines .standard).performAll overrunning = .ok player ∧
        player.tick 0 = .ok (outcome, next) ∧ outcome.moved = true ∧
          next.cursor.step = player.cursor.step :=
  ⟨overrun, _, _, performAll_overrunning, overruns_overrun.tick 0, rfl, rfl⟩

end TracePlayer.Player
