/-
**The speed of a player.**

Whatever speed is asked for, a player plays at a number above zero.  Among such numbers there is
only one zero, none that is no number, and to be the same number is to be equal.

Main definitions:

* `Player.Paced`: the speed of a player is a number above zero;
* `Player.KeepsTo`: it keeps to a pace, at a speed that can be played there;
* `Player.Reachable`: a player that some run leads to.

Main results:

* `Binary64.eq_of_same`: two positive numbers that are the same are equal;
* `Pacing.isPositive_usable`: a speed that can be played is a number above zero;
* `Pacing.usable_usable`: a speed that is played is played as it is;
* `Player.Paced.performAll`: a run keeps the speed above zero.
-/
import TracePlayer.Proofs.Playback.Run

set_option autoImplicit false

namespace TracePlayer

/-! ### Positive numbers -/

namespace Binary64

variable {x y z : Binary64}

theorem lt_eq_true_iff : x.lt y = true ↔ ∃ a b, x.key = some a ∧ y.key = some b ∧ a < b := by
  unfold lt
  cases x.key <;> cases y.key <;> simp

theorem lt_trans (hxy : x.lt y = true) (hyz : y.lt z = true) : x.lt z = true := by
  obtain ⟨a, b, ha, hb, hab⟩ := lt_eq_true_iff.1 hxy
  obtain ⟨b', c, hb', hc, hbc⟩ := lt_eq_true_iff.1 hyz
  obtain rfl : b = b' := Option.some_inj.1 (hb.symm.trans hb')
  exact lt_eq_true_iff.2 ⟨a, c, ha, hc, Int.lt_trans hab hbc⟩

/-- A positive number has no sign, so its place among all numbers is its rank. -/
theorem eq_number_of_isPositive (h : x.isPositive = true) : ∃ rank, x = number false rank := by
  obtain ⟨a, b, ha, hb, hab⟩ := lt_eq_true_iff.1 h
  obtain rfl : 0 = a := Option.some_inj.1 ha
  cases x with
  | nan => cases hb
  | number negative rank =>
      cases negative with
      | false => exact ⟨rank, rfl⟩
      | true =>
          obtain rfl : -(rank.val : Int) = b := Option.some_inj.1 hb
          omega

/-- Among positive numbers, to be the same number is to be equal. -/
theorem eq_of_same (hx : x.isPositive = true) (hy : y.isPositive = true) (h : x.same y = true) :
    x = y := by
  obtain ⟨m, rfl⟩ := eq_number_of_isPositive hx
  obtain ⟨n, rfl⟩ := eq_number_of_isPositive hy
  have hranks : (m.val : Int) = n.val := of_decide_eq_true h
  rw [Fin.ext (Int.ofNat_inj.1 hranks)]

end Binary64

/-! ### Speeds that can be played -/

namespace Pacing

variable {pacing : Pacing} {speed : Binary64}

/-- The floor in force is a finite number above zero. -/
theorem isFinite_isPositive_floor (pacing : Pacing) :
    pacing.floor.isFinite = true ∧ pacing.floor.isPositive = true := by
  unfold floor
  split
  · next h => exact Bool.and_eq_true_iff.1 h
  · decide +kernel

/-- A speed that can be played is a number above zero. -/
theorem isPositive_usable (pacing : Pacing) (speed : Binary64) :
    (pacing.usable speed).isPositive = true := by
  have hfloor := pacing.isFinite_isPositive_floor.2
  unfold usable
  split
  · next h => exact Binary64.lt_trans hfloor (Bool.and_eq_true_iff.1 h).2
  · split
    · decide +kernel
    · exact hfloor

/-- A finite speed that is not below the floor is played as it is. -/
theorem usable_eq_self (finite : speed.isFinite = true)
    (above : pacing.floor.lt speed = true ∨ speed = pacing.floor) :
    pacing.usable speed = speed := by
  unfold usable
  split
  · rfl
  · next hbelow =>
      have hfloor : speed = pacing.floor :=
        above.resolve_left fun hlt => hbelow (Bool.and_eq_true_iff.2 ⟨finite, hlt⟩)
      split
      · next hinfinite =>
          rw [hinfinite] at finite
          exact absurd finite (by decide +kernel)
      · exact hfloor.symm

/-- No floor is above the fastest speed. -/
theorem floor_lt_fastest_or_eq (pacing : Pacing) :
    pacing.floor.lt fastest = true ∨ fastest = pacing.floor := by
  obtain ⟨finite, positive⟩ := pacing.isFinite_isPositive_floor
  obtain ⟨rank, hrank⟩ := Binary64.eq_number_of_isPositive positive
  rw [hrank] at finite
  have hlt : rank.val < infinityRank := of_decide_eq_true finite
  have hfastest : fastest = .number false ⟨infinityRank - 1, by decide⟩ := by decide +kernel
  rw [hrank, hfastest]
  by_cases hlast : rank.val = infinityRank - 1
  · exact .inr (congrArg _ (Fin.ext hlast.symm))
  · have hbelow : rank.val < infinityRank - 1 := by omega
    exact .inl (Binary64.lt_eq_true_iff.2 ⟨_, _, rfl, rfl, Int.ofNat_lt.2 hbelow⟩)

/-- **A speed that is played is played as it is.** -/
theorem usable_usable (pacing : Pacing) (speed : Binary64) :
    pacing.usable (pacing.usable speed) = pacing.usable speed := by
  by_cases h : (speed.isFinite && pacing.floor.lt speed) = true
  · have hself : pacing.usable speed = speed := if_pos h
    rw [hself, hself]
  · by_cases hinfinite : speed = .infinity false
    · have hfastest : pacing.usable speed = fastest := (if_neg h).trans (if_pos hinfinite)
      rw [hfastest]
      exact usable_eq_self (by decide +kernel) pacing.floor_lt_fastest_or_eq
    · have hfloor : pacing.usable speed = pacing.floor := (if_neg h).trans (if_neg hinfinite)
      rw [hfloor]
      exact usable_eq_self pacing.isFinite_isPositive_floor.1 (.inr rfl)

end Pacing

/-! ### Speeds -/

namespace Player

variable {player next : Player} {now : Nat} {outcome : TickOutcome} {action : Action}
  {actions : List Action} {pacing : Pacing}

/-- The speed is a number above zero. -/
def Paced (player : Player) : Prop := player.cursor.speed.isPositive = true

theorem paced_setSpeed (player : Player) (speed : Binary64) : (player.setSpeed speed).Paced :=
  player.pacing.isPositive_usable speed

theorem paced_ofLog (log : Log) (pacing : Pacing) : (ofLog log pacing).Paced :=
  pacing.isPositive_usable pacing.defaultSpeed

theorem speed_play (player : Player) : player.play.2.cursor.speed = player.cursor.speed := by
  rcases player.play_eq_or with hsame | hplays
  · rw [hsame]
  · rw [hplays]

theorem speed_toggle (player : Player) : player.toggle.2.cursor.speed = player.cursor.speed := by
  unfold toggle
  split
  · rfl
  · exact player.speed_play

namespace Paced

theorem of_speed_eq (paced : player.Paced) (h : next.cursor.speed = player.cursor.speed) :
    next.Paced :=
  (congrArg Binary64.isPositive h).trans paced

theorem obey (paced : player.Paced) (command : Command) : (player.obey command).2.Paced := by
  cases command with
  | play => exact paced.of_speed_eq player.speed_play
  | toggle => exact paced.of_speed_eq player.speed_toggle
  | setSpeed _ | speedUp | speedDown => exact player.paced_setSpeed _
  | pause | seek _ | seekEnd | stepForward | stepBack | restart | load _ => exact paced

theorem tick (paced : player.Paced) (h : player.tick now = .ok (outcome, next)) : next.Paced := by
  cases tick_eq_ok_iff.1 h with
  | idle | stop | wait | finish | advance => exact paced

/-- Every action leaves a speed above zero. -/
theorem perform (paced : player.Paced) (h : player.perform action = .ok next) : next.Paced := by
  cases action with
  | command command => exact Except.ok.inj h ▸ paced.obey command
  | tick now =>
      obtain ⟨outcome, htick⟩ := perform_tick_eq_ok_iff.1 h
      exact paced.tick htick

/-- So does a run. -/
theorem performAll (paced : player.Paced) (h : player.performAll actions = .ok next) :
    next.Paced :=
  performAll_keeps (fun (_ : True) paced h => Paced.perform paced h) (fun _ _ => trivial) paced h

end Paced

/-! ### The pace -/

/-- A player keeps to a pace, at a speed that can be played there. -/
structure KeepsTo (player : Player) (pacing : Pacing) : Prop where
  pacing_eq : player.pacing = pacing
  usable_speed : pacing.usable player.cursor.speed = player.cursor.speed

namespace KeepsTo

theorem ofLog (log : Log) (pacing : Pacing) : (ofLog log pacing).KeepsTo pacing :=
  ⟨rfl, pacing.usable_usable _⟩

theorem setSpeed (keeps : player.KeepsTo pacing) (speed : Binary64) :
    (player.setSpeed speed).KeepsTo pacing := by
  refine ⟨keeps.pacing_eq, ?_⟩
  rw [Player.setSpeed, keeps.pacing_eq]
  exact pacing.usable_usable speed

theorem play (keeps : player.KeepsTo pacing) : player.play.2.KeepsTo pacing := by
  rcases player.play_eq_or with hsame | hplays
  · rwa [hsame]
  · rw [hplays]
    exact ⟨keeps.pacing_eq, keeps.usable_speed⟩

/-- No command changes the pace, and every speed that is set can be played. -/
theorem obey (keeps : player.KeepsTo pacing) (command : Command) :
    (player.obey command).2.KeepsTo pacing := by
  have hpause : player.pause.KeepsTo pacing := ⟨keeps.pacing_eq, keeps.usable_speed⟩
  cases command with
  | play => exact keeps.play
  | toggle =>
      simp only [Player.obey, Player.toggle]
      split
      · exact hpause
      · exact keeps.play
  | setSpeed _ | speedUp | speedDown => exact keeps.setSpeed _
  | pause | seek _ | seekEnd | stepForward | stepBack | restart | load _ =>
      exact ⟨keeps.pacing_eq, keeps.usable_speed⟩

theorem tick (keeps : player.KeepsTo pacing) (h : player.tick now = .ok (outcome, next)) :
    next.KeepsTo pacing := by
  cases tick_eq_ok_iff.1 h with
  | idle | stop | wait | finish | advance => exact ⟨keeps.pacing_eq, keeps.usable_speed⟩

end KeepsTo

/-- A player that some run leads to. -/
def Reachable (player : Player) : Prop :=
  ∃ log pacing actions, (ofLog log pacing).performAll actions = .ok player

theorem Reachable.sound : player.Reachable → player.Sound
  | ⟨log, pacing, _, run⟩ => (sound_ofLog log pacing).performAll run

theorem Reachable.paced : player.Reachable → player.Paced
  | ⟨log, pacing, _, run⟩ => (paced_ofLog log pacing).performAll run

end Player

end TracePlayer
