/-
**Waits that are longer than a duration can be.**

A delta has 64 bits of nanoseconds and a duration less than `2 ^ 64` seconds, so it takes a speed of
a billionth to make the one as long as the other.  Every operation on the way keeps the order: the
wait is the longer, the longer the delta and the lower the speed, so that the longest delta and the
two speeds around the limit decide for all others.

Main definitions:

* `Delta.longest`, `Delta.billionth`: the longest delta, and the highest speed at which it is too
  long.

Main results:

* `Delta.ascends_seconds`: no delta has more seconds than the longest one;
* `Delta.forall_scaled_eq_ok_iff`: **every delta can be waited for at a speed above a billionth**,
  and at no other one;
* `Player.KeepsTo.exists_performAll`: above it, no run breaks off;
* `Player.performAll_total_iff`: **no run ever breaks off if and only if the floor in force is above
  a billionth**.
-/
import TracePlayer.Proofs.Binary64.Rounding
import TracePlayer.Proofs.Playback.Speed

set_option autoImplicit false

namespace TracePlayer

open Binary64 (Ascends)

/-! ### Results -/

section

variable {α : Type} {result : Except DurationOverflow α}

/-- A duration that does not overflow is one that there is. -/
theorem exists_eq_ok_iff : (∃ a, result = .ok a) ↔ result.toOption.isSome = true := by
  cases result <;> simp [Except.toOption]

theorem eq_durationOverflow_iff :
    result = .error .durationOverflow ↔ result.toOption = none := by
  rcases result with ⟨⟨⟩⟩ | a <;> simp [Except.toOption]

end

/-! ### Numbers next to each other -/

namespace Binary64

/-- A number above one of a given rank is at least the number of the next rank. -/
theorem ascends_of_ofRank_lt {rank : Nat} {x : Binary64} (hrank : rank < infinityRank)
    (h : (ofRank false rank).lt x = true) : Ascends (ofRank false (rank + 1)) x := by
  rw [ofRank, dif_pos (Nat.lt_succ_of_lt hrank)] at h
  obtain ⟨a, b, ha, hb, hab⟩ := lt_eq_true_iff.1 h
  obtain rfl : (rank : Int) = a := Option.some_inj.1 ha
  rw [ofRank, dif_pos (Nat.succ_lt_succ hrank)]
  rcases x with _ | ⟨_ | _, rankX⟩
  · cases hb
  · obtain rfl : (rankX.val : Int) = b := Option.some_inj.1 hb
    exact Int.ofNat_lt.1 hab
  · obtain rfl : -(rankX.val : Int) = b := Option.some_inj.1 hb
    omega

/-- A positive number that is not above another one is at most that one. -/
theorem ascends_of_not_lt {x y : Binary64} (hx : x.isPositive = true) (hy : y.isPositive = true)
    (h : y.lt x = false) : Ascends x y := by
  obtain ⟨rankX, rfl⟩ := eq_number_of_isPositive hx
  obtain ⟨rankY, rfl⟩ := eq_number_of_isPositive hy
  have hle : ¬(rankY.val : Int) < rankX.val := of_decide_eq_false h
  exact Int.ofNat_le.1 (not_lt.1 hle)

end Binary64

/-! ### Deltas -/

namespace Delta

variable {delta : UInt64} {speed x y : Binary64}

/-- The longest delta. -/
def longest : UInt64 := ofDuration UInt64.size

/-- The highest speed at which the longest delta is longer than a duration can be. -/
def billionth : Binary64 := .ofScientific false 1 (-9)

/-- No delta has more seconds than the longest one. -/
theorem ascends_seconds (delta : UInt64) : Ascends (seconds delta) (seconds longest) := by
  have hle : delta.toNat ≤ longest.toNat := Nat.le_of_lt_succ delta.toNat_lt
  have hdivisor : Ascends (.ofNat perSecond) (.ofNat perSecond) := by decide +kernel
  have hpart {nanos nanos' : Nat} (h : nanos ≤ nanos') (finite : (Binary64.ofNat nanos').isFinite) :
      Ascends ((Binary64.ofNat nanos).div (.ofNat perSecond))
        ((Binary64.ofNat nanos').div (.ofNat perSecond)) :=
    (Binary64.ascends_ofNat h).div hdivisor finite (by decide +kernel) (by decide +kernel)
  unfold seconds
  rcases Nat.lt_or_ge (delta.toNat / perSecond) (longest.toNat / perSecond) with hlt | hge
  · -- A whole second less is enough, however many nanoseconds remain.
    have hnanos : delta.toNat % perSecond ≤ perSecond - 1 :=
      Nat.le_sub_one_of_lt (Nat.mod_lt _ (by decide))
    have hsum := (Binary64.ascends_ofNat (Nat.le_sub_one_of_lt hlt)).add
      (hpart hnanos (by decide +kernel)) (by decide +kernel) (by decide +kernel)
    exact hsum.trans (by decide +kernel)
  · have hseconds : delta.toNat / perSecond = longest.toNat / perSecond :=
      (Nat.div_le_div_right hle).antisymm hge
    have hnanos : delta.toNat % perSecond ≤ longest.toNat % perSecond := by
      rw [← Nat.div_add_mod delta.toNat perSecond, ← Nat.div_add_mod longest.toNat perSecond,
        hseconds] at hle
      exact Nat.le_of_add_le_add_left hle
    exact (Binary64.ascends_ofNat hseconds.le).add (hpart hnanos (by decide +kernel))
      (by decide +kernel) (by decide +kernel)

/-- A number of seconds is a duration if its nanoseconds are fewer than those of `2 ^ 64`
seconds. -/
theorem isSome_nanosOfSeconds_iff {negative : Bool} {rank : Fin (infinityRank + 1)} :
    (nanosOfSeconds (.number negative rank)).toOption.isSome = true ↔
      rank.val < infinityRank ∧
        roundHalfEven ((Binary64.fraction rank).1 * perSecond) (Binary64.fraction rank).2 <
          UInt64.size * perSecond := by
  simp only [nanosOfSeconds]
  split
  · next hinfinite => exact iff_of_false nofun fun h => absurd hinfinite h.1.ne
  · next hfinite =>
      rw [and_iff_right (lt_of_le_of_ne (Nat.le_of_lt_succ rank.isLt) hfinite)]
      split
      · next hfits => exact iff_of_true rfl hfits
      · next hlong => exact iff_of_false nofun hlong

/-- Fewer seconds than those of a duration are a duration. -/
theorem isSome_nanosOfSeconds_of_ascends (h : Ascends x y)
    (fits : (nanosOfSeconds y).toOption.isSome = true) :
    (nanosOfSeconds x).toOption.isSome = true := by
  obtain ⟨rankX, rankY, rfl, rfl, hle⟩ := h.exists_ranks
  obtain ⟨finite, hlt⟩ := isSome_nanosOfSeconds_iff.1 fits
  refine isSome_nanosOfSeconds_iff.2 ⟨hle.trans_lt finite, lt_of_le_of_lt ?_ hlt⟩
  refine roundHalfEven_mono (Binary64.fraction_snd_pos _) (Binary64.fraction_snd_pos _) ?_
  push_cast
  rw [mul_div_right_comm, mul_div_right_comm, Binary64.fraction_ratio, Binary64.fraction_ratio]
  gcongr
  exact Binary64.value_mono hle

/-! ### The limit -/

/-- The limit is a number with the next one above it. -/
theorem billionth_eq_ofRank : billionth = .ofRank false 4472406533629990549 := by
  decide +kernel

/-- **Every delta can be waited for at a speed above a billionth**, and at no other one. -/
theorem forall_scaled_eq_ok_iff (finite : speed.isFinite = true)
    (positive : speed.isPositive = true) :
    (∀ delta, ∃ nanos, scaled delta speed = .ok nanos) ↔ billionth.lt speed = true := by
  have hscaled (delta : UInt64) : scaled delta speed = nanosOfSeconds ((seconds delta).div speed) :=
    if_pos (Bool.and_eq_true_iff.2 ⟨finite, positive⟩)
  simp only [hscaled, exists_eq_ok_iff]
  constructor
  · intro h
    -- At a lower speed the longest delta would not be shorter than at the limit.
    by_contra hlow
    have hbelow : Ascends speed billionth :=
      Binary64.ascends_of_not_lt positive (by decide +kernel) (Bool.eq_false_of_not_eq_true hlow)
    have hquotient := (ascends_seconds longest).div hbelow (by decide +kernel) (by decide +kernel)
      positive
    have hfits := isSome_nanosOfSeconds_of_ascends hquotient (h longest)
    exact absurd hfits (by decide +kernel)
  · intro h delta
    rw [billionth_eq_ofRank] at h
    have habove := Binary64.ascends_of_ofRank_lt (by decide) h
    have hquotient := (ascends_seconds delta).div habove (by decide +kernel) finite
      (by decide +kernel)
    exact isSome_nanosOfSeconds_of_ascends hquotient (by decide +kernel)

end Delta

/-! ### Speeds -/

namespace Pacing

variable {pacing : Pacing}

/-- A speed that can be played is finite. -/
theorem isFinite_usable (pacing : Pacing) (speed : Binary64) :
    (pacing.usable speed).isFinite = true := by
  unfold usable
  split
  · next h => exact (Bool.and_eq_true_iff.1 h).1
  · split
    · decide +kernel
    · exact pacing.isFinite_isPositive_floor.1

/-- What is below the floor is below every speed that can be played. -/
theorem lt_usable {x : Binary64} (h : x.lt pacing.floor = true) (speed : Binary64) :
    x.lt (pacing.usable speed) = true := by
  unfold usable
  split
  · next habove => exact Binary64.lt_trans h (Bool.and_eq_true_iff.1 habove).2
  · split
    · rcases pacing.floor_lt_fastest_or_eq with hlt | heq
      · exact Binary64.lt_trans h hlt
      · rwa [heq]
    · exact h

/-- A speed of zero is played as the floor. -/
theorem usable_zero (pacing : Pacing) : pacing.usable .zero = pacing.floor := by
  have hfloor : pacing.floor.lt .zero = false := by
    obtain ⟨rank, hrank⟩ := Binary64.eq_number_of_isPositive pacing.isFinite_isPositive_floor.2
    rw [hrank]
    exact decide_eq_false (Int.not_lt.2 (Int.natCast_nonneg rank.val))
  rw [usable, hfloor, Bool.and_false, if_neg Bool.false_ne_true, if_neg (by decide)]

end Pacing

/-! ### Runs -/

namespace Player

variable {player : Player} {pacing : Pacing}

namespace KeepsTo

/-- Above a billionth, there is always a next wait, unless the cursor is on the last step. -/
theorem exists_nextWait (keeps : player.KeepsTo pacing)
    (above : Delta.billionth.lt pacing.floor = true) :
    ∃ wait, player.nextWait = .ok wait := by
  have hspeed := keeps.usable_speed
  have hscaled := (Delta.forall_scaled_eq_ok_iff
    (hspeed ▸ pacing.isFinite_usable _) (hspeed ▸ pacing.isPositive_usable _)).2
      (hspeed ▸ Pacing.lt_usable above _)
  unfold nextWait
  split
  · exact ⟨none, rfl⟩
  · next event hevent =>
      obtain ⟨nanos, hnanos⟩ := hscaled event.delta
      rw [waitFor, hnanos]
      exact ⟨_, rfl⟩

/-- So no action breaks off. -/
theorem exists_perform (keeps : player.KeepsTo pacing)
    (above : Delta.billionth.lt pacing.floor = true) (action : Action) :
    ∃ next, player.perform action = .ok next ∧ next.KeepsTo pacing := by
  cases action with
  | command command => exact ⟨_, rfl, keeps.obey command⟩
  | tick now =>
      obtain ⟨wait, hwait⟩ := keeps.exists_nextWait above
      have htick : ∃ result, player.tick now = .ok result := by
        unfold Player.tick
        split
        · rw [hwait]
          exact ⟨_, rfl⟩
        · exact ⟨_, rfl⟩
      obtain ⟨⟨outcome, next⟩, htick⟩ := htick
      exact ⟨next, perform_tick_eq_ok_iff.2 ⟨outcome, htick⟩, keeps.tick htick⟩

/-- And no run does. -/
theorem exists_performAll (keeps : player.KeepsTo pacing)
    (above : Delta.billionth.lt pacing.floor = true) (actions : List Action) :
    ∃ next, player.performAll actions = .ok next ∧ next.KeepsTo pacing := by
  induction actions generalizing player with
  | nil => exact ⟨player, rfl, keeps⟩
  | cons action rest ih =>
      obtain ⟨middle, hfirst, hmiddle⟩ := keeps.exists_perform above action
      obtain ⟨next, hrest, hnext⟩ := ih hmiddle
      exact ⟨next, performAll_cons_eq_ok_iff.2 ⟨middle, hfirst, hrest⟩, hnext⟩

end KeepsTo

/-- Two lines with some time between them. -/
def twoLines (delta : UInt64) : Log :=
  { Log.empty ⟨"two"⟩ with
    events := [.plain 0 .line 1, { Event.plain 1 .line 1 with delta := delta }] }

/-- **No run ever breaks off, and there always is a next wait, if and only if the floor in force is
above a billionth.** -/
theorem performAll_total_iff (pacing : Pacing) :
    (∀ (log : Log) (actions : List Action), ∃ player wait,
      (ofLog log pacing).performAll actions = .ok player ∧ player.nextWait = .ok wait) ↔
        Delta.billionth.lt pacing.floor = true := by
  constructor
  · intro h
    obtain ⟨finite, positive⟩ := pacing.isFinite_isPositive_floor
    refine (Delta.forall_scaled_eq_ok_iff finite positive).1 fun delta => ?_
    -- A player that is set to a speed of zero waits for the delta at the floor.
    obtain ⟨player, wait, hrun, hwait⟩ := h (twoLines delta) [.command (.setSpeed .zero)]
    obtain ⟨_, hset, hend⟩ := performAll_cons_eq_ok_iff.1 hrun
    obtain rfl := (Except.ok.inj hset).trans (performAll_nil_eq_ok_iff.1 hend)
    rcases nextWait_eq_ok hwait with ⟨-, hlast⟩ | ⟨_, -, event, nanos, hevent, hscaled, -⟩
    · cases hlast
    · cases hevent
      exact ⟨nanos, (congrArg (Delta.scaled delta) pacing.usable_zero).symm.trans hscaled⟩
  · intro above log actions
    obtain ⟨player, hrun, keeps⟩ := (KeepsTo.ofLog log pacing).exists_performAll above actions
    obtain ⟨wait, hwait⟩ := keeps.exists_nextWait above
    exact ⟨player, wait, hrun, hwait⟩

/-- A pace whose floor is a billionth, and where the playback begins there. -/
def crawling : Pacing :=
  { Pacing.standard with defaultSpeed := .zero, speedFloor := Delta.billionth }

/-- At a floor of a billionth, the longest delta breaks off a run at its first tick. -/
theorem performAll_crawling :
    (ofLog (twoLines Delta.longest) crawling).nextWait = .error .durationOverflow ∧
      (ofLog (twoLines Delta.longest) crawling).performAll [.command .play, .tick 0] =
        .error .durationOverflow :=
  ⟨eq_durationOverflow_iff.2 (by decide +kernel), eq_durationOverflow_iff.2 (by decide +kernel)⟩

end Player

end TracePlayer
