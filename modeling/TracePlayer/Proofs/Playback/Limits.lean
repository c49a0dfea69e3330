/-
**The limits of the speed.**

The configured speeds may be any numbers and no numbers at all, and the difference between two
speeds may be added up to anything.  What keeps the speed in bounds is the order alone: the lesser
and the greater of two values pass over one that is no number, so the limit stands whatever the sum
is, and the speed that is played is never below the floor.

Main definitions:

* `Player.HoldsLimits`: **what can be relied on of a speed, of one step up and of one step down**.

Main results:

* `Binary64.exists_key_min`, `Binary64.exists_key_max`: the lesser of two values is at most the
  second and the greater at least, whatever the first one is;
* `Pacing.key_usable`: a finite speed is played as it is or at the floor, whichever is greater;
* `Pacing.raised_between`, `Pacing.lowered_between`: a speed goes up to the highest one and down to
  the lowest one, whatever the sum and the difference are;
* `Player.holdsLimits_of_performAll`: **every run leaves a speed above zero that one step keeps
  within the limits**.
-/
import TracePlayer.Proofs.Playback.Overflow

set_option autoImplicit false

namespace TracePlayer

/-! ### The order of the numbers -/

namespace Binary64

variable {x y : Binary64} {a b : Int}

theorem le_eq_true_iff : x.le y = true ↔ ∃ a b, x.key = some a ∧ y.key = some b ∧ a ≤ b := by
  unfold le
  cases x.key <;> cases y.key <;> simp

theorem lt_eq_decide (hx : x.key = some a) (hy : y.key = some b) : x.lt y = decide (a < b) := by
  simp only [lt, hx, hy]

/-- A number is finite if its place is nearer to zero than those of the two infinities. -/
theorem isFinite_iff : x.isFinite = true ↔ ∃ a, x.key = some a ∧ a.natAbs < infinityRank := by
  rcases x with _ | ⟨_ | _, rank⟩ <;> simp [isFinite, key]

/-- The lesser of two numbers. -/
theorem key_min (hx : x.key = some a) (hy : y.key = some b) :
    (x.min y).key = some (Min.min a b) := by
  have hmin : x.min y = if y.lt x then y else x := by
    cases x with
    | nan => cases hx
    | number _ _ =>
        cases y with
        | nan => cases hy
        | number _ _ => rfl
  rw [hmin, lt_eq_decide hy hx, apply_ite key, hx, hy]
  rcases Int.lt_or_le b a with hlt | hle
  · rw [decide_eq_true hlt, if_pos rfl, min_eq_right hlt.le]
  · rw [decide_eq_false hle.not_gt, if_neg Bool.false_ne_true, min_eq_left hle]

/-- The greater of two numbers. -/
theorem key_max (hx : x.key = some a) (hy : y.key = some b) :
    (x.max y).key = some (Max.max a b) := by
  have hmax : x.max y = if x.lt y then y else x := by
    cases x with
    | nan => cases hx
    | number _ _ =>
        cases y with
        | nan => cases hy
        | number _ _ => rfl
  rw [hmax, lt_eq_decide hx hy, apply_ite key, hx, hy]
  rcases Int.lt_or_le a b with hlt | hle
  · rw [decide_eq_true hlt, if_pos rfl, max_eq_right hlt.le]
  · rw [decide_eq_false hle.not_gt, if_neg Bool.false_ne_true, max_eq_left hle]

/-- **The lesser of two values is at most the second one**, if this is a number: a first one that is
no number is passed over. -/
theorem exists_key_min (x : Binary64) (hy : y.key = some b) :
    ∃ a, (x.min y).key = some a ∧ a ≤ b := by
  cases hx : x.key with
  | none => exact ⟨b, by rw [key_eq_none_iff.1 hx]; exact hy, le_rfl⟩
  | some a => exact ⟨_, key_min hx hy, min_le_right a b⟩

/-- **The greater of two values is at least the second one**, if this is a number. -/
theorem exists_key_max (x : Binary64) (hy : y.key = some b) :
    ∃ a, (x.max y).key = some a ∧ b ≤ a := by
  cases hx : x.key with
  | none => exact ⟨b, by rw [key_eq_none_iff.1 hx]; exact hy, le_rfl⟩
  | some a => exact ⟨_, key_max hx hy, le_max_right a b⟩

end Binary64

/-! ### One step up, one step down -/

namespace Pacing

variable {pacing : Pacing} {speed : Binary64} {a b : Int}

/-- **A finite speed is played as it is or at the floor**, whichever is greater. -/
theorem key_usable (finite : speed.isFinite = true) (hspeed : speed.key = some a)
    (hfloor : pacing.floor.key = some b) : (pacing.usable speed).key = some (max a b) := by
  have hnot : speed ≠ .infinity false := by
    rintro rfl
    exact absurd finite (by decide +kernel)
  rw [usable, finite, Bool.true_and, if_neg hnot, Binary64.lt_eq_decide hfloor hspeed,
    apply_ite Binary64.key, hspeed, hfloor]
  rcases Int.lt_or_le b a with hlt | hle
  · rw [decide_eq_true hlt, if_pos rfl, max_eq_left hlt.le]
  · rw [decide_eq_false hle.not_gt, if_neg Bool.false_ne_true, max_eq_right hle]

/-- A speed that can be played is not below the floor. -/
theorem floor_le_usable (pacing : Pacing) (speed : Binary64) :
    pacing.floor.le (pacing.usable speed) = true := by
  obtain ⟨b, hfloor, -⟩ := Binary64.isFinite_iff.1 pacing.isFinite_isPositive_floor.1
  obtain ⟨a, hspeed, -⟩ := Binary64.isFinite_iff.1 (pacing.isFinite_usable speed)
  have hself := key_usable (pacing.isFinite_usable speed) hspeed hfloor
  rw [pacing.usable_usable, hspeed] at hself
  exact Binary64.le_eq_true_iff.2
    ⟨b, a, hfloor, hspeed, (le_max_right a b).trans_eq (Option.some_inj.1 hself).symm⟩

/-- **A speed goes up to the highest one at most**, and not down but to it, whatever the speed with
the difference added is. -/
theorem raised_between (raised : Binary64) (hspeed : speed.isFinite = true)
    (hmax : pacing.maxSpeed.isFinite = true) :
    let next := (raised.min pacing.maxSpeed).max (speed.min pacing.maxSpeed)
    (speed.min pacing.maxSpeed).le (pacing.usable next) = true ∧
      (pacing.usable next).le (pacing.maxSpeed.max pacing.floor) = true := by
  intro next
  obtain ⟨s, hs, hsbound⟩ := Binary64.isFinite_iff.1 hspeed
  obtain ⟨m, hm, hmbound⟩ := Binary64.isFinite_iff.1 hmax
  obtain ⟨f, hf, -⟩ := Binary64.isFinite_iff.1 pacing.isFinite_isPositive_floor.1
  obtain ⟨r, hr, hrm⟩ := Binary64.exists_key_min raised hm
  have hlow := Binary64.key_min hs hm
  have hnext : next.key = some (max r (min s m)) := Binary64.key_max hr hlow
  have finite : next.isFinite = true := Binary64.isFinite_iff.2 ⟨_, hnext, by omega⟩
  have hplayed := key_usable finite hnext hf
  have hlower : min s m ≤ max (max r (min s m)) f := by omega
  have hupper : max (max r (min s m)) f ≤ max m f := by omega
  exact ⟨Binary64.le_eq_true_iff.2 ⟨_, _, hlow, hplayed, hlower⟩,
    Binary64.le_eq_true_iff.2 ⟨_, _, hplayed, Binary64.key_max hm hf, hupper⟩⟩

/-- **A speed goes down to the lowest one at most**, and not up but to it, whatever the speed with
the difference taken away is, if it is not below the floor. -/
theorem lowered_between (lowered : Binary64) (hspeed : speed.isFinite = true)
    (hfloor : pacing.floor.le speed = true) (hmin : pacing.minSpeed.isFinite = true) :
    let next := (lowered.max pacing.minSpeed).min (speed.max pacing.minSpeed)
    pacing.minSpeed.le (pacing.usable next) = true ∧
      (pacing.usable next).le (speed.max pacing.minSpeed) = true := by
  intro next
  obtain ⟨s, hs, hsbound⟩ := Binary64.isFinite_iff.1 hspeed
  obtain ⟨m, hm, hmbound⟩ := Binary64.isFinite_iff.1 hmin
  obtain ⟨f, s', hf, hs', hfs⟩ := Binary64.le_eq_true_iff.1 hfloor
  obtain rfl : s = s' := Option.some_inj.1 (hs.symm.trans hs')
  obtain ⟨l, hl, hml⟩ := Binary64.exists_key_max lowered hm
  have hhigh := Binary64.key_max hs hm
  have hnext : next.key = some (min l (max s m)) := Binary64.key_min hl hhigh
  have finite : next.isFinite = true := Binary64.isFinite_iff.2 ⟨_, hnext, by omega⟩
  have hplayed := key_usable finite hnext hf
  have hlower : m ≤ max (min l (max s m)) f := by omega
  have hupper : max (min l (max s m)) f ≤ max s m := by omega
  exact ⟨Binary64.le_eq_true_iff.2 ⟨_, _, hm, hplayed, hlower⟩,
    Binary64.le_eq_true_iff.2 ⟨_, _, hplayed, hhigh, hupper⟩⟩

end Pacing

/-! ### Runs -/

namespace Player

variable {player : Player} {pacing : Pacing} {log : Log} {actions : List Action}

/-- **What can be relied on of the speed of a player that keeps to a pace.** -/
structure HoldsLimits (player : Player) (pacing : Pacing) : Prop where
  /-- The speed is finite. -/
  finite : player.cursor.speed.isFinite = true
  /-- The speed is above zero. -/
  positive : player.cursor.speed.isPositive = true
  /-- Between finite limits, a step up leads to a speed from the old one or the highest one,
  whichever is less, up to the highest one or the floor, whichever is greater. -/
  raised : pacing.minSpeed.isFinite = true → pacing.maxSpeed.isFinite = true →
    (player.cursor.speed.min pacing.maxSpeed).le player.speedUp.cursor.speed = true ∧
      player.speedUp.cursor.speed.le (pacing.maxSpeed.max pacing.floor) = true
  /-- A step down leads to a speed from the lowest one up to the old one or the lowest one,
  whichever is greater. -/
  lowered : pacing.minSpeed.isFinite = true → pacing.maxSpeed.isFinite = true →
    pacing.minSpeed.le player.speedDown.cursor.speed = true ∧
      player.speedDown.cursor.speed.le (player.cursor.speed.max pacing.minSpeed) = true

/-- A player holds the limits of the pace that it keeps to. -/
theorem KeepsTo.holdsLimits (keeps : player.KeepsTo pacing) : player.HoldsLimits pacing := by
  obtain ⟨rfl, hspeed⟩ := keeps
  have finite : player.cursor.speed.isFinite = true := hspeed ▸ player.pacing.isFinite_usable _
  have hfloor : player.pacing.floor.le player.cursor.speed = true :=
    hspeed ▸ player.pacing.floor_le_usable _
  exact
    { finite := finite
      positive := hspeed ▸ player.pacing.isPositive_usable _
      raised := fun _ hmax => Pacing.raised_between _ finite hmax
      lowered := fun hmin _ => Pacing.lowered_between _ finite hfloor hmin }

theorem KeepsTo.perform {next : Player} {action : Action} (keeps : player.KeepsTo pacing)
    (h : player.perform action = .ok next) : next.KeepsTo pacing := by
  cases action with
  | command command => exact Except.ok.inj h ▸ keeps.obey command
  | tick now =>
      obtain ⟨outcome, htick⟩ := perform_tick_eq_ok_iff.1 h
      exact keeps.tick htick

/-- **Every run leaves a finite speed above zero, and one step up or down keeps it within the
limits**, whatever the numbers of the pace are and whatever speeds were asked for. -/
theorem holdsLimits_of_performAll (h : (ofLog log pacing).performAll actions = .ok player) :
    player.HoldsLimits pacing := by
  have keeps : player.KeepsTo pacing :=
    performAll_keeps (fun (_ : True) keeps h => KeepsTo.perform keeps h) (fun _ _ => trivial)
      (.ofLog log pacing) h
  exact keeps.holdsLimits

/-- A pace whose speeds make little sense: no number to begin with, a lowest speed above the highest
one, which is below zero, a floor of zero, and a difference that is no number. -/
def senseless : Pacing where
  minWaitMillis := 0
  defaultSpeed := .nan
  minSpeed := .ofNat 4
  maxSpeed := .ofRank true 1
  speedStep := .nan
  speedFloor := .zero

/-- A run in which infinity is asked for. -/
def fastestRun : List Action := [.tick 0, .command (.setSpeed (.infinity false))]

/-- At this pace, infinity is played as the largest number, a step up from there leads to the floor
in force, and a step down from the floor to the lowest speed. -/
theorem holdsLimits_senseless :
    (senseless.minSpeed.isFinite = true ∧ senseless.maxSpeed.isFinite = true) ∧
      ∃ player, (ofLog threeLines senseless).performAll fastestRun = .ok player ∧
        player.cursor.speed = Pacing.fastest ∧
        player.speedUp.cursor.speed = .ofScientific false 1 (-3) ∧
        player.speedUp.speedDown.cursor.speed = .ofNat 4 ∧ player.HoldsLimits senseless := by
  refine ⟨by decide +kernel, _, rfl, by decide +kernel, by decide +kernel, by decide +kernel, ?_⟩
  exact holdsLimits_of_performAll
    (show (ofLog threeLines senseless).performAll fastestRun = _ from rfl)

end Player

end TracePlayer
