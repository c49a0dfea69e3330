/-
**A playback as text.**

A transcript watches the snapshots of a playback and prints one line for each step as the cursor
reaches it.  It may miss snapshots; the next one it sees brings it up to date.

Main definitions:

* `Log.stepLine?`: the line of a step;
* `Transcript`, `Transcript.observe`: the lines printed so far, and what a snapshot adds to them;
* `Showing`, `Showing.ofPlayback`: what comes of an undisturbed playback.
-/
import TracePlayer.Playback.Loop
import TracePlayer.Text.Pad

set_option autoImplicit false

namespace TracePlayer

/-- The line of a step: its number, what happened where, and what it printed. -/
def Log.stepLine? (log : Log) (step : Nat) : Option String :=
  (log.event? step).map fun event =>
    let line := "[" ++ padLeft 4 (toString step) ++ "] " ++ padRight 9 event.kind.name ++ " "
      ++ event.function ++ " line " ++ toString event.line.toNat
    if event.fragment.isEmpty then line else line ++ " | " ++ trimNewlines event.fragment

/-- The lines printed so far. -/
structure Transcript where
  /-- The lines. -/
  lines : List String
  /-- The last step that was printed. -/
  printed : Nat
  /-- Whether the playback has stopped. -/
  ended : Bool
  deriving DecidableEq

namespace Transcript

/-- A transcript begins with the line of the first step. -/
def start (log : Log) : Transcript where
  lines := (log.stepLine? 0).toList
  printed := 0
  ended := false

/-- The lines of the steps after `first` up to and including `last`. -/
def linesBetween (log : Log) (first last : Nat) : List String :=
  (List.range' (first + 1) (last - first)).filterMap log.stepLine?

/-- What a snapshot adds: the lines up to its step; a snapshot that does not play is the last. -/
def observe (log : Log) (transcript : Transcript) (snapshot : Snapshot) : Transcript :=
  if transcript.ended then transcript
  else
    { lines := transcript.lines ++ linesBetween log transcript.printed snapshot.cursor.step
      printed := Nat.max transcript.printed snapshot.cursor.step
      ended := !snapshot.cursor.playing }

/-- What a snapshot adds, with the time of the snapshot. -/
def observeAt (log : Log) (watched : Transcript × List (Nat × String)) (timed : Nat × Snapshot) :
    Transcript × List (Nat × String) :=
  let transcript := watched.1.observe log timed.2
  let added := transcript.lines.drop watched.1.lines.length
  (transcript, watched.2 ++ added.map fun line => (timed.1, line))

end Transcript

/-! ### Undisturbed playback -/

/-- What comes of an undisturbed playback. -/
structure Showing where
  /-- The lines, each with the time at which it is printed. -/
  lines : List (Nat × String)
  /-- The time at which the playback ends. -/
  finished : Nat
  /-- Whether it broke off before the last step. -/
  brokeOff : Bool
  deriving DecidableEq

namespace Showing

/-- The snapshots that an undisturbed playback publishes, with their times, and the loop that is
left. -/
def snapshotsOf (log : Log) (pacing : Pacing) (period : Nat) : List (Nat × Snapshot) × Loop :=
  let (first, loop) := (Loop.start (Player.ofLog log pacing) period 0).send 0 .play
  let (rest, loop) := loop.runToEnd
  (first ++ rest, loop)

/-- **An undisturbed playback** with the given pace and tick period.  A log of at most one event is
not played at all; a playback that breaks off ends at the tick at which it does. -/
def ofPlayback (log : Log) (pacing : Pacing) (period : Nat) : Showing :=
  let begun := Transcript.start log
  let first := begun.lines.map fun line => (0, line)
  if log.maxStep = 0 then ⟨first, 0, false⟩
  else
    let (snapshots, loop) := snapshotsOf log pacing period
    let brokeOff := loop.phase = .brokenOff
    { lines := (snapshots.foldl (Transcript.observeAt log) (begun, first)).2
      finished := if brokeOff then loop.firesAt else (snapshots.getLast?.map Prod.fst).getD 0
      brokeOff := brokeOff }

/-- All lines as one text. -/
def text (showing : Showing) : String :=
  String.join (showing.lines.map fun line => line.2 ++ "\n")

end Showing

end TracePlayer
