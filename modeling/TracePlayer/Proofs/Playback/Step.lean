/-
**What one tick and one command can do.**

Main definitions:

* `Player.WaitInForce`: the wait before the next step, as the next event and the speed give it;
* `Player.stepped`: a player after the step it waited for;
* `Player.Ticks`: everything that a tick can do, with what it reports;
* `Player.Sound`: **the invariant** of a player.

Main results:

* `Player.tick_eq_ok_iff`: a tick does exactly these things;
* `Player.baseline_obey`: a command keeps the time from which a wait counts, or drops it;
* `Player.Sound.obey`, `Player.Sound.tick`: commands and ticks keep the invariant.
-/
import TracePlayer.Playback.Player

set_option autoImplicit false

namespace TracePlayer.Player

/-! ### Ticks -/

/-- The wait before the next step: the time of the next event scaled by the speed, but no less than
the shortest wait. -/
def WaitInForce (player : Player) (wait : Nat) : Prop :=
  ∃ event span, player.log.event? (player.cursor.step + 1) = some event ∧
    Delta.scaled event.delta player.cursor.speed = .ok span ∧
    wait = max span player.pacing.minWait

/-- While a wait is in force, the step that it leads to exists. -/
theorem WaitInForce.lt_length {player : Player} {wait : Nat} (force : player.WaitInForce wait) :
    player.cursor.step + 1 < player.log.events.length := by
  obtain ⟨_, _, hevent, -, -⟩ := force
  exact (List.getElem?_eq_some_iff.1 hevent).1

/-- A player after the step it waited for. -/
def stepped (player : Player) (now : Nat) : Player :=
  { player with
    cursor := { player.cursor with step := player.cursor.step + 1 }, baseline := some now }

/-- **Everything that a tick can do**, with what it reports. -/
inductive Ticks (player : Player) (now : Nat) : TickOutcome → Player → Prop
  /-- Nothing, because the playback does not run. -/
  | idle (stopped : player.cursor.playing = false) : Ticks player now .idle player
  /-- It stops on the last step, where the cursor was put while the playback ran. -/
  | stop (playing : player.cursor.playing = true)
      (last : player.log.event? (player.cursor.step + 1) = none) :
      Ticks player now (.finished player.cursor.step) player.stopped
  /-- It waits on, from the baseline or from now. -/
  | wait {wait : Nat} (playing : player.cursor.playing = true) (force : player.WaitInForce wait)
      (early : now - player.baseline.getD now < wait) :
      Ticks player now (.waiting (wait - (now - player.baseline.getD now)))
        { player with baseline := some (player.baseline.getD now) }
  /-- It takes the last step and stops. -/
  | finish {wait : Nat} (playing : player.cursor.playing = true)
      (force : player.WaitInForce wait) (due : wait ≤ now - player.baseline.getD now)
      (last : player.maxStep ≤ player.cursor.step + 1) :
      Ticks player now (.finished (player.cursor.step + 1)) (player.stepped now).stopped
  /-- It takes a step and goes on. -/
  | advance {wait : Nat} (playing : player.cursor.playing = true)
      (force : player.WaitInForce wait) (due : wait ≤ now - player.baseline.getD now)
      (more : player.cursor.step + 1 < player.maxStep) :
      Ticks player now (.advanced (player.cursor.step + 1)) (player.stepped now)

variable {player next : Player} {now : Nat} {outcome : TickOutcome}

/-- The next wait, as a tick computes it, is the wait in force; there is none on the last step. -/
theorem nextWait_eq_ok {wait? : Option Nat} (h : player.nextWait = .ok wait?) :
    (wait? = none ∧ player.log.event? (player.cursor.step + 1) = none) ∨
      ∃ wait, wait? = some wait ∧ player.WaitInForce wait := by
  unfold nextWait at h
  split at h
  · next hnone => exact .inl ⟨(Except.ok.inj h).symm, hnone⟩
  · next event hevent =>
      unfold waitFor at h
      cases hspan : Delta.scaled event.delta player.cursor.speed with
      | error fault => simp [hspan, Except.map] at h
      | ok span =>
          simp only [hspan, Except.map, Except.ok.injEq] at h
          exact .inr ⟨_, h.symm, event, span, hevent, hspan, rfl⟩

theorem WaitInForce.nextWait {wait : Nat} (force : player.WaitInForce wait) :
    player.nextWait = .ok (some wait) := by
  obtain ⟨event, span, hevent, hspan, rfl⟩ := force
  simp only [Player.nextWait, hevent, waitFor, hspan, Except.map]

/-- What a tick does while the playback runs and some wait is in force. -/
theorem WaitInForce.tick {wait : Nat} (force : player.WaitInForce wait)
    (playing : player.cursor.playing = true) (now : Nat) :
    player.tick now = .ok (player.tickWaiting wait now) := by
  simp only [Player.tick, playing, if_true, force.nextWait, Except.map]

/-- A tick does one of the things that a tick can do. -/
theorem ticks_of_tick (h : player.tick now = .ok (outcome, next)) :
    player.Ticks now outcome next := by
  cases hplaying : player.cursor.playing with
  | false =>
      simp only [tick, hplaying, Bool.false_eq_true, if_false, Except.ok.injEq,
        Prod.mk.injEq] at h
      obtain ⟨rfl, rfl⟩ := h
      exact .idle hplaying
  | true =>
      cases hwait : player.nextWait with
      | error fault => simp [tick, hplaying, hwait, Except.map] at h
      | ok wait? =>
          -- A playback may run on the last step, when the cursor was put there by a command.
          rcases nextWait_eq_ok hwait with ⟨rfl, hlast⟩ | ⟨wait, rfl, hforce⟩
          · simp only [tick, hplaying, if_true, hwait, Except.map, Except.ok.injEq,
              Prod.mk.injEq] at h
            obtain ⟨rfl, rfl⟩ := h
            exact .stop hplaying hlast
          · rw [hforce.tick hplaying, Except.ok.injEq] at h
            simp only [tickWaiting] at h
            split at h
            · next hearly =>
                obtain ⟨rfl, rfl⟩ := Prod.mk.inj h
                exact .wait hplaying hforce hearly
            · next hdue =>
                simp only [Player.advance] at h
                split at h
                · next hend =>
                    obtain ⟨rfl, rfl⟩ := Prod.mk.inj h
                    exact .finish hplaying hforce (Nat.not_lt.1 hdue) (of_decide_eq_true hend)
                · next hend =>
                    obtain ⟨rfl, rfl⟩ := Prod.mk.inj h
                    refine .advance hplaying hforce (Nat.not_lt.1 hdue) (Nat.not_le.1 fun hle => ?_)
                    exact hend (decide_eq_true hle)

/-- Everything that a tick can do, some tick does. -/
theorem tick_of_ticks (h : player.Ticks now outcome next) :
    player.tick now = .ok (outcome, next) := by
  cases h with
  | idle stopped => simp [tick, stopped]
  | stop playing last => simp [tick, playing, nextWait, last, Except.map]
  | wait playing force early =>
      rw [force.tick playing]
      exact congrArg Except.ok (if_pos early)
  | finish playing force due last =>
      have hend : (player.stepped now).atEnd = true := decide_eq_true last
      rw [force.tick playing]
      exact congrArg Except.ok ((if_neg (Nat.not_lt.2 due)).trans (if_pos hend))
  | advance playing force due more =>
      have hend : ¬ (player.stepped now).atEnd = true :=
        fun h => Nat.not_le.2 more (of_decide_eq_true h)
      rw [force.tick playing]
      exact congrArg Except.ok ((if_neg (Nat.not_lt.2 due)).trans (if_neg hend))

/-- **A tick does exactly what `Ticks` says.** -/
theorem tick_eq_ok_iff :
    player.tick now = .ok (outcome, next) ↔ player.Ticks now outcome next :=
  ⟨ticks_of_tick, tick_of_ticks⟩

/-- No tick changes the log. -/
theorem log_tick (h : player.tick now = .ok (outcome, next)) : next.log = player.log := by
  cases tick_eq_ok_iff.1 h <;> rfl

/-! ### Commands -/

/-- Only a player that was stopped is changed by the command to play, and then it plays. -/
theorem play_eq_or (player : Player) :
    player.play.2 = player ∨
      player.play.2 =
        { player with
          cursor := { player.cursor with playing := true }, baseline := none } := by
  unfold play
  split
  · exact .inl rfl
  · split
    · exact .inl rfl
    · exact .inr rfl

/-- A command keeps the time from which a wait counts, or drops it; it never sets one. -/
theorem baseline_obey (player : Player) (command : Command) :
    (player.obey command).2.baseline = player.baseline ∨
      (player.obey command).2.baseline = none := by
  cases command with
  | play =>
      simp only [obey, play]
      split
      · exact .inl rfl
      · split
        · exact .inl rfl
        · exact .inr rfl
  | toggle =>
      simp only [obey, toggle, play]
      split
      · exact .inr rfl
      · split
        · exact .inl rfl
        · exact .inr rfl
  | pause | restart | load _ => exact .inr rfl
  | seek _ | seekEnd | stepForward | stepBack | setSpeed _ | speedUp | speedDown =>
      exact .inl rfl

theorem toggle_of_stopped (stopped : player.cursor.playing = false) :
    player.toggle = player.play := by
  simp [toggle, stopped]

/-- A playback that is started counts no wait yet. -/
theorem baseline_play (stopped : player.cursor.playing = false)
    (playing : player.play.2.cursor.playing = true) : player.play.2.baseline = none := by
  cases hend : player.atEnd with
  | true => simp [play, stopped, hend] at playing
  | false => simp [play, stopped, hend]

/-! ### The invariant -/

/-- **The invariant** of a player. -/
structure Sound (player : Player) : Prop where
  /-- The cursor is inside the log. -/
  step_le : player.cursor.step ≤ player.maxStep
  /-- Only a playback that runs counts a wait. -/
  baseline_eq_none : player.cursor.playing = false → player.baseline = none

theorem sound_ofLog (log : Log) (pacing : Pacing) : (ofLog log pacing).Sound :=
  ⟨Nat.zero_le _, fun _ => rfl⟩

namespace Sound

/-- The cursor may be put anywhere inside the log. -/
theorem goTo (sound : player.Sound) {step : Nat} (h : step ≤ player.maxStep) :
    Sound { player with cursor := { player.cursor with step := step } } :=
  ⟨h, sound.baseline_eq_none⟩

theorem setSpeed (sound : player.Sound) (speed : Binary64) : (player.setSpeed speed).Sound :=
  ⟨sound.step_le, sound.baseline_eq_none⟩

theorem stopped (sound : player.Sound) : player.stopped.Sound :=
  ⟨sound.step_le, fun _ => rfl⟩

theorem play (sound : player.Sound) : player.play.2.Sound := by
  rcases player.play_eq_or with hsame | hplays
  · rw [hsame]
    exact sound
  · rw [hplays]
    exact ⟨sound.step_le, fun _ => rfl⟩

theorem toggle (sound : player.Sound) : player.toggle.2.Sound := by
  unfold Player.toggle
  split
  · exact sound.stopped
  · exact sound.play

/-- Every command keeps the invariant. -/
theorem obey (sound : player.Sound) (command : Command) : (player.obey command).2.Sound := by
  cases command with
  | play => exact sound.play
  | pause => exact sound.stopped
  | toggle => exact sound.toggle
  | seek step => exact sound.goTo (Nat.min_le_right _ _)
  | seekEnd => exact sound.goTo (Nat.le_refl _)
  | stepForward => exact sound.goTo (Nat.min_le_right _ _)
  | stepBack => exact sound.goTo (Nat.le_trans (Nat.sub_le _ _) sound.step_le)
  | setSpeed _ | speedUp | speedDown => exact sound.setSpeed _
  | restart => exact ⟨Nat.zero_le _, fun _ => rfl⟩
  | load _ => exact ⟨Nat.zero_le _, fun _ => rfl⟩

/-- A step that a wait leads to exists. -/
theorem stepped {wait : Nat} (force : player.WaitInForce wait)
    (playing : player.cursor.playing = true) (now : Nat) : (player.stepped now).Sound := by
  have hplays : (player.stepped now).cursor.playing ≠ false := ne_false_of_eq_true playing
  exact ⟨Nat.le_sub_one_of_lt force.lt_length, fun stopped => absurd stopped hplays⟩

/-- Every tick keeps the invariant. -/
theorem tick (sound : player.Sound) (h : player.tick now = .ok (outcome, next)) : next.Sound := by
  cases tick_eq_ok_iff.1 h with
  | idle => exact sound
  | stop => exact sound.stopped
  | wait playing => exact ⟨sound.step_le, fun hstopped => by simp [playing] at hstopped⟩
  | finish playing force => exact (stepped force playing now).stopped
  | advance playing force => exact stepped force playing now

end Sound

end TracePlayer.Player
