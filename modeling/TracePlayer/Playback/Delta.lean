/-
**Times of the tracer.**

The tracer stamps every event with its clock and with the time since the event before, both in
nanoseconds.  Only the latter paces a playback.

Main definitions:

* `Delta.ofMillis`, `Delta.between`, `Delta.ofDuration`: spans of time that fit into 64 bits; a
  larger one becomes the largest;
* `Delta.text`, `Delta.clockText`: spans and clock readings as they are shown;
* `Delta.scaled`: a span divided by a playback speed.
-/
import TracePlayer.Binary64.Arithmetic

set_option autoImplicit false

namespace TracePlayer

/-- The span of time is longer than a duration can be. -/
inductive DurationOverflow where
  | durationOverflow
  deriving DecidableEq

namespace Delta

/-- The nanoseconds of a millisecond. -/
def perMilli : Nat := 1000000

/-- The nanoseconds of a second. -/
def perSecond : Nat := 1000000000

/-- The span of a number of nanoseconds, the largest one if it does not fit. -/
def ofDuration (nanos : Nat) : UInt64 := UInt64.ofNat (min nanos (UInt64.size - 1))

/-- The span of a number of milliseconds. -/
def ofMillis (millis : UInt64) : UInt64 := ofDuration (millis.toNat * perMilli)

/-- The span from an earlier reading of the clock to a later one, zero if it went backwards. -/
def between (earlier later : UInt64) : UInt64 := UInt64.ofNat (later.toNat - earlier.toNat)

/-- A reading of the clock as it is shown. -/
def clockText (clock : UInt64) : String := toString clock.toNat ++ "ns"

/-- A span as it is shown: in whole milliseconds from one millisecond on. -/
def text (delta : UInt64) : String :=
  if perMilli ≤ delta.toNat then toString (delta.toNat / perMilli) ++ "ms"
  else toString delta.toNat ++ "ns"

/-! ### Scaling -/

/-- A span in seconds: the whole seconds and the rest are converted on their own and added. -/
def seconds (delta : UInt64) : Binary64 :=
  (Binary64.ofNat (delta.toNat / perSecond)).add
    ((Binary64.ofNat (delta.toNat % perSecond)).div (Binary64.ofNat perSecond))

/-- The nanoseconds of a number of seconds, rounded to the nearest one, a half to the even one.  A
duration holds less than `2 ^ 64` seconds. -/
def nanosOfSeconds : Binary64 → Except DurationOverflow Nat
  | .nan => .error .durationOverflow
  | .number _ rank =>
      if rank.val = infinityRank then .error .durationOverflow
      else
        let (num, den) := Binary64.fraction rank.val
        let nanos := roundHalfEven (num * perSecond) den
        if nanos < UInt64.size * perSecond then .ok nanos else .error .durationOverflow

/-- **A span divided by a playback speed.**  A speed that is not a number above zero leaves the
span as it is. -/
def scaled (delta : UInt64) (speed : Binary64) : Except DurationOverflow Nat :=
  if speed.isFinite && speed.isPositive then nanosOfSeconds ((seconds delta).div speed)
  else .ok delta.toNat

end Delta

end TracePlayer
