/-
**Printing a playback while it runs.**

A transcript and the loop that it watches take their turns in any order.  A look at the loop is
worth something only after the loop has published, and shows what was published last; whatever was
published before is missed.  The transcript catches up with the cursor at each look, so that its
lines are always the lines of the first steps, and a look at a playback that has stopped is a look
at the last step.

Main definitions:

* `Watched`: a loop that plays, and the transcript of what was seen of it;
* `Watched.Move`, `Watched.run`: their turns, in any order;
* `Watched.Faithful`: **the invariant** of the two.

Main results:

* `Watched.faithful_run`: they keep the invariant, whoever takes the next turn;
* `Watched.Faithful.shown`: at every moment the lines of the first steps are printed, up to the
  cursor at most;
* `Watched.Faithful.complete`: a transcript that has ended has all lines.
-/
import TracePlayer.Playback.Transcript
import TracePlayer.Proofs.Playback.Chronicle

set_option autoImplicit false

namespace TracePlayer

/-! ### The lines of the first steps -/

/-- The lines of the first steps, as far as there are any. -/
def Log.linesTo (log : Log) (step : Nat) : List String :=
  (List.range (step + 1)).filterMap log.stepLine?

variable {log : Log} {step : Nat}

theorem Log.stepLine?_eq_none_iff : log.stepLine? step = none ↔ log.length ≤ step := by
  simp [stepLine?, event?, length]

/-- Every step of the log has its line. -/
theorem Log.map_some_filterMap_stepLine? (log : Log) (count : Nat) :
    ((List.range count).filterMap log.stepLine?).map some =
      (List.range (min count log.length)).map log.stepLine? := by
  induction count with
  | zero => simp
  | succ count ih =>
      rw [List.range_succ, List.filterMap_append, List.map_append, ih]
      cases hline : log.stepLine? count with
      | none =>
          have hle : log.length ≤ count := stepLine?_eq_none_iff.1 hline
          simp [hline, Nat.min_eq_right hle, Nat.min_eq_right (Nat.le_succ_of_le hle)]
      | some line =>
          have hlt : count < log.length := by
            refine Nat.not_le.1 fun hle => ?_
            rw [stepLine?_eq_none_iff.2 hle] at hline
            cases hline
          simp [hline, Nat.min_eq_left hlt.le, Nat.min_eq_left (Nat.succ_le_of_lt hlt),
            List.range_succ]

/-- Any first part of the lines up to a step are the lines up to some step before. -/
theorem Log.prefix_linesTo {shown : List String} (h : shown <+: log.linesTo step) :
    ∃ count ≤ step + 1, shown.map some = (List.range count).map log.stepLine? := by
  have htake := congrArg (List.map some) (List.prefix_iff_eq_take.1 h)
  rw [List.map_take, linesTo, map_some_filterMap_stepLine?, ← List.map_take,
    List.take_range] at htake
  exact ⟨_, (Nat.min_le_right _ _).trans (Nat.min_le_left _ _), htake⟩

theorem Log.linesTo_maxStep (log : Log) :
    (log.linesTo log.maxStep).map some = (List.range log.length).map log.stepLine? := by
  have hcount : min (log.maxStep + 1) log.length = log.length :=
    Nat.min_eq_right (Nat.le_add_of_sub_le (Nat.le_refl _))
  rw [linesTo, map_some_filterMap_stepLine?, hcount]

/-- The lines between two steps lead from the lines up to the one to the lines up to the other. -/
theorem Log.linesTo_append {first : Nat} (h : first ≤ step) :
    log.linesTo first ++ Transcript.linesBetween log first step = log.linesTo step := by
  have hsteps : List.range' 0 (first + 1) ++ List.range' (first + 1) (step - first) =
      List.range' 0 (step + 1) := by
    have happend := List.range'_append_1 (s := 0) (m := first + 1) (n := step - first)
    rwa [Nat.zero_add, Nat.add_right_comm, Nat.add_sub_cancel' h] at happend
  simp only [linesTo, Transcript.linesBetween, List.range_eq_range', ← List.filterMap_append,
    hsteps]

/-! ### A loop and its transcript -/

/-- A loop that plays, and the transcript of what was seen of it. -/
structure Watched where
  loop : Loop
  /-- Whether the loop has published anything since the last look. -/
  fresh : Bool
  transcript : Transcript

namespace Watched

/-- At the beginning, nothing but the first line is printed. -/
def start (log : Log) (pacing : Pacing) (period now : Nat) : Watched :=
  ⟨.start (.ofLog log pacing) period now, false, .start log⟩

/-- Something happens to the loop. -/
def happen (watched : Watched) (event : Loop.Event) : Watched :=
  { watched with
    loop := (watched.loop.step event).2
    fresh := watched.fresh || (watched.loop.step event).1.isSome }

/-- A look at what the loop has published last. -/
def look (log : Log) (watched : Watched) : Watched :=
  if watched.fresh then
    { watched with
      fresh := false, transcript := watched.transcript.observe log watched.loop.published }
  else watched

@[simp] theorem loop_look (log : Log) (watched : Watched) :
    (watched.look log).loop = watched.loop := by
  unfold look
  split <;> rfl

theorem fresh_look (log : Log) (watched : Watched) : (watched.look log).fresh = false := by
  unfold look
  split
  · rfl
  · next hfresh => exact eq_false_of_ne_true hfresh

/-- What can come next: the loop is told to play, its timer fires, it is interrupted, or the
transcript takes a look at it. -/
inductive Move where
  | plays (now : Nat)
  | ticks (now : Nat)
  | interrupts
  | looks

def move (log : Log) (watched : Watched) : Move → Watched
  | .plays now => watched.happen (.command now .play)
  | .ticks now => watched.happen (.tick now)
  | .interrupts => watched.happen .cancel
  | .looks => watched.look log

/-- What comes of all moves from the beginning. -/
def run (log : Log) (pacing : Pacing) (period now : Nat) (moves : List Move) : Watched :=
  moves.foldl (move log) (start log pacing period now)

/-! ### The invariant -/

/-- **The invariant** of a loop and its transcript. -/
structure Faithful (log : Log) (watched : Watched) : Prop where
  log_eq : watched.loop.player.log = log
  sound : watched.loop.player.Sound
  /-- What was published last is what can be seen now. -/
  published_eq : watched.loop.published = watched.loop.player.snapshot
  /-- The lines up to the last step that was printed are printed. -/
  lines_eq : watched.transcript.lines = log.linesTo watched.transcript.printed
  /-- The cursor is there or further. -/
  printed_le : watched.transcript.printed ≤ watched.loop.player.cursor.step
  /-- There is something new to see only once the playback runs, or has come to its end. -/
  settled : watched.fresh = true →
    watched.loop.player.cursor.playing = true ∨ watched.loop.player.cursor.step = log.maxStep
  /-- A playback that has stopped further on has been seen to, or there is something to see. -/
  caught : watched.loop.player.cursor.playing = false → watched.loop.player.cursor.step ≠ 0 →
    watched.fresh = true ∨ watched.transcript.ended = true
  /-- A transcript that has ended has come to the last step. -/
  ended : watched.transcript.ended = true → watched.transcript.printed = log.maxStep

theorem faithful_start (log : Log) (pacing : Pacing) (period now : Nat) :
    (start log pacing period now).Faithful log where
  log_eq := rfl
  sound := Player.sound_ofLog log pacing
  published_eq := rfl
  lines_eq := by
    cases hline : log.stepLine? 0 <;> simp [start, Transcript.start, Log.linesTo, hline]
  printed_le := Nat.le_refl _
  settled := by rintro ⟨⟩
  caught := fun _ hstep => absurd rfl hstep
  ended := by rintro ⟨⟩

namespace Faithful

variable {watched : Watched} {player : Player} {due : Nat}

/-- The loop takes another player of the same log, on the same step or a later one, and publishes
what can be seen. -/
theorem publish (faithful : watched.Faithful log) (hlog : player.log = watched.loop.player.log)
    (sound : player.Sound) (hle : watched.loop.player.cursor.step ≤ player.cursor.step)
    (settled : player = watched.loop.player ∨ player.cursor.playing = true ∨
      player.cursor.step = player.maxStep) :
    Faithful log
      { watched with
        loop := ({ watched.loop with player := player, due := due } : Loop).publish.2
        fresh := watched.fresh ||
          ({ watched.loop with player := player, due := due } : Loop).publish.1.isSome } := by
  have hmax : player.maxStep = log.maxStep := congrArg Log.maxStep (hlog.trans faithful.log_eq)
  refine
    { log_eq := ?_
      sound := ?_
      published_eq := ?_
      lines_eq := faithful.lines_eq
      printed_le := ?_
      settled := ?_
      caught := ?_
      ended := faithful.ended }
  all_goals simp only [Loop.player_publish, Loop.published_publish, Loop.isSome_publish]
  · exact hlog.trans faithful.log_eq
  · exact sound
  · exact faithful.printed_le.trans hle
  · intro hfresh
    rcases settled with rfl | hsettled
    · -- The player is the same, so that there is nothing to publish.
      have hsame : watched.loop.player.snapshot = watched.loop.published :=
        faithful.published_eq.symm
      simp only [hsame, ne_eq, not_true, decide_false, Bool.or_false] at hfresh
      exact faithful.settled hfresh
    · exact hmax ▸ hsettled
  · intro hstopped hstep
    -- Either nothing that can be seen has changed, or there is something new to see.
    by_cases hsame : player.snapshot = watched.loop.player.snapshot
    · have hcursor : player.cursor = watched.loop.player.cursor := congrArg Snapshot.cursor hsame
      rw [hcursor] at hstopped hstep
      refine (faithful.caught hstopped hstep).imp_left fun hfresh => ?_
      rw [hfresh, Bool.true_or]
    · rw [← faithful.published_eq] at hsame
      exact .inl (by simp [hsame])

theorem withPhase (faithful : watched.Faithful log) (phase : LoopPhase) :
    Faithful log { watched with loop := { watched.loop with phase := phase } } :=
  { faithful with }

/-- Whatever happens to a loop that is told nothing but to play keeps the invariant. -/
theorem happen {event : Loop.Event} (faithful : watched.Faithful log)
    (plays : ∀ command ∈ event.command?, command = .play) :
    (watched.happen event).Faithful log := by
  obtain ⟨acts, hturn⟩ := watched.loop.exists_turns event
  unfold Watched.happen
  generalize watched.loop.step event = result at hturn ⊢
  cases hturn with
  | ceased | unheard => simpa using faithful
  | cancelled | brokeOff => simpa using faithful.withPhase _
  | obeyed now command =>
      -- The command to play leaves the cursor where it is.
      obtain rfl := plays command rfl
      rw [Loop.receive_eq]
      refine faithful.publish ?_ (faithful.sound.obey .play) ?_ ?_
      all_goals
        rcases watched.loop.player.play_eq_or with hplay | hplay
        all_goals simp [Player.obey, hplay]
  | @ticked now _ next running playing tick =>
      obtain ⟨hstep, hstops⟩ := faithful.sound.tick_playing playing tick
      have hle : watched.loop.player.cursor.step ≤ next.cursor.step := by omega
      refine faithful.publish (Player.log_tick tick) (faithful.sound.tick tick) hle (.inr ?_)
      exact (Bool.eq_false_or_eq_true _).imp_right hstops.1

/-- **A look brings the transcript up to the cursor.** -/
theorem look (faithful : watched.Faithful log) : (watched.look log).Faithful log := by
  unfold Watched.look
  split
  · next hfresh =>
      unfold Transcript.observe
      split
      · next hended =>
          exact { faithful with settled := by rintro ⟨⟩, caught := fun _ _ => .inr hended }
      · refine
          { faithful with
            lines_eq := ?_
            printed_le := ?_
            settled := by rintro ⟨⟩
            caught := ?_
            ended := ?_ }
        all_goals
          simp only [faithful.published_eq, Player.snapshot,
            Nat.max_eq_right faithful.printed_le]
        · rw [faithful.lines_eq, Log.linesTo_append faithful.printed_le]
        · exact Nat.le_refl _
        · exact fun hstopped _ => .inr (by rw [hstopped]; rfl)
        · -- A playback that is seen to have stopped stopped on the last step.
          intro hstopped
          simp only [Bool.not_eq_true'] at hstopped
          exact (faithful.settled hfresh).resolve_left (by simp [hstopped])
  · exact faithful

/-- **Whoever takes the next turn, the invariant is kept.** -/
theorem move (faithful : watched.Faithful log) (move : Move) :
    (watched.move log move).Faithful log := by
  cases move with
  | plays now =>
      refine faithful.happen ?_
      rintro _ ⟨⟩
      rfl
  | ticks now | interrupts =>
      refine faithful.happen ?_
      rintro _ ⟨⟩
  | looks => exact faithful.look

theorem foldl_move (faithful : watched.Faithful log) (moves : List Move) :
    (moves.foldl (Watched.move log) watched).Faithful log := by
  induction moves generalizing watched with
  | nil => exact faithful
  | cons first rest ih => exact ih (faithful.move first)

/-! ### What is printed -/

/-- **The lines of the first steps are printed**, up to the cursor at most, also while lines are
being printed. -/
theorem shown (faithful : watched.Faithful log) {shown : List String}
    (h : shown <+: watched.transcript.lines) :
    ∃ count ≤ watched.loop.player.cursor.step + 1,
      shown.map some = (List.range count).map log.stepLine? := by
  rw [faithful.lines_eq] at h
  obtain ⟨count, hcount, hshown⟩ := Log.prefix_linesTo h
  exact ⟨count, hcount.trans (Nat.succ_le_succ faithful.printed_le), hshown⟩

/-- **A look at a playback that has come to its end ends the transcript.** -/
theorem ended_look (faithful : watched.Faithful log)
    (stopped : watched.loop.player.cursor.playing = false)
    (moved : watched.loop.player.cursor.step ≠ 0) :
    (watched.look log).transcript.ended = true := by
  have hcaught := faithful.look.caught
  rw [loop_look, fresh_look] at hcaught
  exact (hcaught stopped moved).resolve_left Bool.false_ne_true

/-- **A transcript that has ended has all lines**, and one of a log without a second step has them
from the start. -/
theorem complete (faithful : watched.Faithful log)
    (h : log.maxStep = 0 ∨ watched.transcript.ended = true) :
    watched.transcript.lines.map some = (List.range log.length).map log.stepLine? := by
  have hprinted : watched.transcript.printed = log.maxStep := by
    rcases h with hnone | hended
    · have hstep : watched.loop.player.cursor.step ≤ watched.loop.player.log.maxStep :=
        faithful.sound.step_le
      rw [faithful.log_eq] at hstep
      have hle := faithful.printed_le
      omega
    · exact faithful.ended hended
  rw [faithful.lines_eq, hprinted, Log.linesTo_maxStep]

end Faithful

/-- **The invariant holds after any moves.** -/
theorem faithful_run (log : Log) (pacing : Pacing) (period now : Nat) (moves : List Move) :
    (run log pacing period now moves).Faithful log :=
  (faithful_start log pacing period now).foldl_move moves

end Watched

end TracePlayer
