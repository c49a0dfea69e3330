/-
**The pace of a playback.**

Main definitions:

* `Pacing`: the shortest wait between two steps and the limits of the speed;
* `Pacing.usable`: the speed that stands in for one that cannot be played.
-/
import TracePlayer.Binary64.Arithmetic
import TracePlayer.Playback.Delta

set_option autoImplicit false

namespace TracePlayer

/-- The shortest wait between two steps and the limits of the speed. -/
structure Pacing where
  /-- The shortest wait between two steps, in milliseconds. -/
  minWaitMillis : Nat
  /-- The speed at the beginning. -/
  defaultSpeed : Binary64
  /-- The lowest speed that can be stepped down to. -/
  minSpeed : Binary64
  /-- The highest speed that can be stepped up to. -/
  maxSpeed : Binary64
  /-- The difference between two speeds. -/
  speedStep : Binary64
  /-- The speed that stands in for one that is too small. -/
  speedFloor : Binary64
  deriving DecidableEq

namespace Pacing

/-- The pace used when none is asked for. -/
def standard : Pacing where
  minWaitMillis := 400
  defaultSpeed := .ofNat 1
  minSpeed := .ofScientific false 25 (-2)
  maxSpeed := .ofNat 4
  speedStep := .ofScientific false 25 (-2)
  speedFloor := .ofScientific false 1 (-3)

instance : Inhabited Pacing := ⟨standard⟩

/-- The shortest wait between two steps, in nanoseconds. -/
def minWait (pacing : Pacing) : Nat := pacing.minWaitMillis * Delta.perMilli

/-- The floor in force: the chosen one if it is a number above zero, and a thousandth
otherwise. -/
def floor (pacing : Pacing) : Binary64 :=
  if pacing.speedFloor.isFinite && pacing.speedFloor.isPositive then pacing.speedFloor
  else .ofScientific false 1 (-3)

/-- The largest finite number. -/
def fastest : Binary64 := .ofRank false (infinityRank - 1)

/-- The speed itself if it is finite and above the floor, the fastest one for infinity, and the
floor for any other. -/
def usable (pacing : Pacing) (speed : Binary64) : Binary64 :=
  if speed.isFinite && pacing.floor.lt speed then speed
  else if speed = .infinity false then fastest
  else pacing.floor

end Pacing

end TracePlayer
