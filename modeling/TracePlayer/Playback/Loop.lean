/-
**The playback loop.**

A loop owns a player.  It carries out commands in the order in which they are sent, ticks in
regular distances while the playback runs, and publishes a snapshot whenever something that can be
seen has changed.  Time is virtual: it stands still between two things that happen, and goes on in
whole milliseconds.  A tick that is due between two of them comes with the later one, but the next
tick is due a period after the first was due, and not after it came.

Main definitions:

* `Snapshot`: what can be seen of a player;
* `roundedUp`: a span in whole units;
* `timerAfter`: the time that a timer is set to;
* `Loop`, `Loop.Event`, `Loop.step`: the loop and what can happen to it;
* `Loop.firesAt`: the time at which the timer fires;
* `Loop.send`, `Loop.sleepUntil`: a command, and the passage of time with every tick that falls
  due.
-/
import TracePlayer.Playback.Player

set_option autoImplicit false

namespace TracePlayer

/-! ### Snapshots -/

/-- What can be seen of a player. -/
structure Snapshot where
  /-- The run that is played. -/
  run : RunId
  /-- The place. -/
  cursor : Cursor
  /-- The last step. -/
  maxStep : Nat
  deriving DecidableEq

/-- What can be seen of a player now. -/
def Player.snapshot (player : Player) : Snapshot := ⟨player.log.run, player.cursor, player.maxStep⟩

/-! ### Timers -/

/-- A span rounded up to whole units. -/
def roundedUp (span unit : Nat) : Nat := unit * ((span + (unit - 1)) / unit)

theorem dvd_roundedUp (span unit : Nat) : unit ∣ roundedUp span unit :=
  Nat.dvd_mul_right unit _

theorem le_roundedUp {unit : Nat} (hunit : 0 < unit) (span : Nat) : span ≤ roundedUp span unit := by
  have hlt := Nat.lt_mul_div_succ (span + (unit - 1)) hunit
  rw [Nat.mul_succ] at hlt
  unfold roundedUp
  omega

theorem roundedUp_lt_add {unit : Nat} (hunit : 0 < unit) (span : Nat) :
    roundedUp span unit < span + unit := by
  have hle := Nat.mul_div_le (span + (unit - 1)) unit
  unfold roundedUp
  omega

theorem roundedUp_mono {first last : Nat} (h : first ≤ last) (unit : Nat) :
    roundedUp first unit ≤ roundedUp last unit :=
  Nat.mul_le_mul_left unit (Nat.div_le_div_right (Nat.add_le_add_right h _))

/-- The last time that a timer can count to, in nanoseconds. -/
def farthestTime : Nat := (UInt64.size - 3) * Delta.perMilli

/-- Thirty years of 365 days, in nanoseconds. -/
def thirtyYears : Nat := 30 * 365 * 86400 * Delta.perSecond

/-- The time a span after a given one.  A timer that cannot count so far is set thirty years
ahead. -/
def timerAfter (now base span : Nat) : Nat :=
  if farthestTime < base + span then now + thirtyYears else base + span

/-! ### The loop -/

/-- Whether a loop still runs. -/
inductive LoopPhase where
  /-- It takes commands and ticks. -/
  | running
  /-- It has been told to end. -/
  | cancelled
  /-- It broke off at a wait that is longer than a duration can be. -/
  | brokenOff
  deriving DecidableEq

/-- A player with a timer. -/
structure Loop where
  /-- The player. -/
  player : Player
  /-- The distance between the times at which two ticks are due, in nanoseconds. -/
  period : Nat
  /-- The time at which the next tick is due, if the playback runs then. -/
  due : Nat
  /-- The snapshot published last. -/
  published : Snapshot
  /-- Whether the loop still runs. -/
  phase : LoopPhase

namespace Loop

/-- The words for a command that comes after the end of the loop. -/
def stoppedText : String := "playback driver has stopped"

/-- Whether the loop takes commands and ticks. -/
def isRunning (loop : Loop) : Bool := loop.phase = .running

/-- The player that a loop leaves behind; none if it broke off. -/
def player? (loop : Loop) : Option Player :=
  if loop.phase = .brokenOff then none else some loop.player

/-- What can happen to a loop. -/
inductive Event where
  /-- A command arrives. -/
  | command (now : Nat) (command : Player.Command)
  /-- The timer fires. -/
  | tick (now : Nat)
  /-- The loop is cancelled. -/
  | cancel

/-- A loop begins with a player, a tick period of at least one millisecond and a timer that is due
at once. -/
def start (player : Player) (period now : Nat) : Loop where
  player := player
  period := Nat.max period Delta.perMilli
  due := now
  published := player.snapshot
  phase := .running

/-- Publishes what can be seen, if it differs from what was published last. -/
def publish (loop : Loop) : Option Snapshot × Loop :=
  if loop.player.snapshot = loop.published then (none, loop)
  else (some loop.player.snapshot, { loop with published := loop.player.snapshot })

/-- A command; when it starts the playback, the timer is due at once. -/
def receive (loop : Loop) (now : Nat) (command : Player.Command) : Loop :=
  let player := (loop.player.obey command).2
  if !loop.player.cursor.playing && player.cursor.playing then
    { loop with player := player, due := now }
  else { loop with player := player }

/-- The timer fires.  A wait that is longer than a duration can be ends the loop without another
snapshot. -/
def fire (loop : Loop) (now : Nat) : Option Snapshot × Loop :=
  match loop.player.tick now with
  | .ok (_, player) =>
      { loop with player := player, due := timerAfter now loop.due loop.period }.publish
  | .error _ => (none, { loop with phase := .brokenOff })

/-- **What happens next.**  A loop that does not run does nothing, and the timer of a playback that
does not run is not listened to. -/
def step (loop : Loop) (event : Event) : Option Snapshot × Loop :=
  if loop.isRunning then
    match event with
    | .cancel => (none, { loop with phase := .cancelled })
    | .command now command => (loop.receive now command).publish
    | .tick now => if loop.player.cursor.playing then loop.fire now else (none, loop)
  else (none, loop)

/-! ### Virtual time -/

/-- The time at which the timer fires: with the first whole millisecond that does not come before
the tick is due. -/
def firesAt (loop : Loop) : Nat := roundedUp loop.due Delta.perMilli

/-- Whether the timer fires up to a time. -/
def ticksBefore (loop : Loop) (limit : Nat) : Bool :=
  loop.player.cursor.playing && loop.isRunning && decide (loop.firesAt ≤ limit)

/-- The ticks that fall due up to a time, at most `fuel` of them, with the snapshots they publish
and the times of publication. -/
def runTicks : Nat → Loop → Nat → List (Nat × Snapshot) × Loop
  | 0, loop, _ => ([], loop)
  | fuel + 1, loop, limit =>
      if loop.ticksBefore limit then
        let (published, next) := loop.step (.tick loop.firesAt)
        let (rest, last) := runTicks fuel next limit
        ((published.toList.map fun snapshot => (loop.firesAt, snapshot)) ++ rest, last)
      else ([], loop)

/-- The least distance between the times at which two ticks are due. -/
def gap (loop : Loop) : Nat := Nat.min loop.period thirtyYears

/-- The greatest distance between two times at which the timer fires. -/
def stretch (loop : Loop) : Nat := Nat.max loop.period thirtyYears + Delta.perMilli

/-- Lets the time pass, up to and including the ticks that fall due at its end.  The distance
between two ticks bounds their number. -/
def sleepUntil (loop : Loop) (limit : Nat) : List (Nat × Snapshot) × Loop :=
  runTicks ((limit - loop.due) / loop.gap + 1) loop limit

/-- More ticks than an undisturbed playback needs from its cursor to the last step: each wait takes
the ticks that fit into it, one that begins it, one that ends it and one more for the parts of a
millisecond between the time at which the wait begins and the one at which that tick was due. -/
def ticksToEnd (loop : Loop) : Nat :=
  ((loop.player.log.events.drop (loop.player.cursor.step + 1)).map fun event =>
    match loop.player.waitFor event with
    | .ok wait => wait / loop.gap + 3
    | .error _ => 1).foldr (· + ·) 1

/-- Lets the time pass until the playback stops. -/
def runToEnd (loop : Loop) : List (Nat × Snapshot) × Loop :=
  let ticks := loop.ticksToEnd
  runTicks ticks loop (loop.firesAt + ticks * loop.stretch)

/-- Sends a command at a time, and lets a tick pass that it makes due. -/
def send (loop : Loop) (now : Nat) (command : Player.Command) :
    List (Nat × Snapshot) × Loop :=
  let (published, loop) := loop.step (.command now command)
  let (rest, loop) := loop.sleepUntil now
  ((published.toList.map fun snapshot => (now, snapshot)) ++ rest, loop)

end Loop

end TracePlayer
