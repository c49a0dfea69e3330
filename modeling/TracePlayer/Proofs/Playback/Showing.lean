/-
**Undisturbed playbacks, line by line.**

The transcript of an undisturbed playback takes a look at every snapshot, at the time at which it is
published.  That is one of the many ways in which a loop and its transcript can take turns, and one
in which the transcript keeps abreast of the loop: it ends when the playback stops, and the playback
does stop.

Main definitions:

* `Transcript.Timed`: the lines with their times are the lines of a transcript;
* `Abreast`: **the invariant** of a transcript that has seen everything.

Main results:

* `Abreast.runTicks`: a transcript keeps abreast of a loop while time passes;
* `Showing.complete`: an undisturbed playback comes to its end, and all lines are printed;
* `Watched.prints_in_order`: **at every moment the lines of the first steps are printed**, each of
  them once, and all of them at the end.
-/
import TracePlayer.Proofs.Playback.Ending
import TracePlayer.Proofs.Playback.Printing

set_option autoImplicit false

namespace TracePlayer

variable {log : Log} {pacing : Pacing} {loop : Loop} {transcript : Transcript} {limit : Nat}

/-! ### Lines with their times -/

namespace Transcript

/-- A look only adds lines. -/
theorem lines_observe (log : Log) (transcript : Transcript) (snapshot : Snapshot) :
    ∃ added, (transcript.observe log snapshot).lines = transcript.lines ++ added := by
  unfold observe
  split
  · exact ⟨[], (List.append_nil _).symm⟩
  · exact ⟨_, rfl⟩

theorem ended_observe (going : transcript.ended = false) (snapshot : Snapshot) :
    (transcript.observe log snapshot).ended = !snapshot.cursor.playing := by
  simp [observe, going]

/-- The lines with their times are the lines of the transcript. -/
def Timed (watched : Transcript × List (Nat × String)) : Prop :=
  watched.2.map Prod.snd = watched.1.lines

/-- The first line is printed at once. -/
theorem timed_start (log : Log) : Timed (start log, (start log).lines.map fun line => (0, line)) :=
  Loop.map_snd_map_mk 0 _

theorem Timed.observeAt {watched : Transcript × List (Nat × String)} (timed : Timed watched)
    (log : Log) (snapshot : Nat × Snapshot) : Timed (observeAt log watched snapshot) := by
  obtain ⟨added, hadded⟩ := watched.1.lines_observe log snapshot.2
  have hlines : watched.2.map Prod.snd = watched.1.lines := timed
  simp only [Timed, Transcript.observeAt, List.map_append, hlines, List.map_map, hadded,
    List.drop_left]
  exact congrArg _ (List.map_id' _)

theorem Timed.foldl {watched : Transcript × List (Nat × String)} (timed : Timed watched)
    (log : Log) (snapshots : List (Nat × Snapshot)) :
    Timed (snapshots.foldl (Transcript.observeAt log) watched) := by
  induction snapshots generalizing watched with
  | nil => exact timed
  | cons first rest ih => exact ih (timed.observeAt log first)

/-- The times make no difference to what is seen. -/
theorem fst_foldl_observeAt (watched : Transcript × List (Nat × String))
    (snapshots : List (Nat × Snapshot)) :
    (snapshots.foldl (observeAt log) watched).1 =
      (snapshots.map Prod.snd).foldl (observe log) watched.1 := by
  induction snapshots generalizing watched with
  | nil => rfl
  | cons first rest ih => exact ih _

end Transcript

/-! ### Keeping abreast -/

/-- What a step publishes is what was published last after it. -/
theorem Loop.published_step (loop : Loop) (event : Loop.Event) :
    (loop.step event).2.published = (loop.step event).1.getD loop.published := by
  have hpublish : ∀ loop : Loop, loop.publish.2.published = loop.publish.1.getD loop.published := by
    intro loop
    unfold publish
    split <;> rfl
  obtain ⟨acts, hturn⟩ := loop.exists_turns event
  generalize loop.step event = result at hturn ⊢
  cases hturn with
  | ceased | cancelled | brokeOff | unheard => rfl
  | obeyed => rw [hpublish, receive_eq]
  | ticked => rw [hpublish]

/-- **The invariant** of a transcript that has seen everything that a loop published. -/
structure Abreast (log : Log) (loop : Loop) (transcript : Transcript) : Prop where
  faithful : Watched.Faithful log ⟨loop, false, transcript⟩
  /-- It ends when the playback stops. -/
  ended_eq : transcript.ended = !loop.player.cursor.playing

/-- A transcript that has not ended sees what a step publishes, and ends with the playback. -/
theorem abreast_step {event : Loop.Event}
    (faithful : Watched.Faithful log ⟨loop, false, transcript⟩) (going : transcript.ended = false)
    (plays : ∀ command ∈ event.command?, command = .play)
    (goes : (loop.step event).1 = none → (loop.step event).2.player.cursor.playing = true) :
    Abreast log (loop.step event).2
      ((loop.step event).1.toList.foldl (Transcript.observe log) transcript) := by
  have hhappen := faithful.happen plays
  have hpublished := loop.published_step event
  simp only [Watched.happen, Bool.false_or] at hhappen
  generalize loop.step event = result at hhappen hpublished goes ⊢
  obtain ⟨_ | snapshot, next⟩ := result
  · exact ⟨hhappen, going.trans (by rw [goes rfl]; rfl)⟩
  · obtain rfl : next.published = snapshot := hpublished
    refine ⟨hhappen.look, ?_⟩
    have hplayer : next.published = next.player.snapshot := hhappen.published_eq
    exact (Transcript.ended_observe going _).trans (by rw [hplayer]; rfl)

namespace Abreast

/-- A transcript keeps abreast of a tick. -/
theorem tick (abreast : Abreast log loop transcript) (playing : loop.player.cursor.playing = true)
    (now : Nat) :
    Abreast log (loop.step (.tick now)).2
      ((loop.step (.tick now)).1.toList.foldl (Transcript.observe log) transcript) := by
  refine abreast_step abreast.faithful ?_ ?_ ?_
  · rw [abreast.ended_eq, playing]
    rfl
  · rintro _ ⟨⟩
  · intro hsilent
    -- What can be seen is what was published before, so the playback still runs.
    have hhappen : (Watched.happen ⟨loop, false, transcript⟩ (.tick now)).Faithful log :=
      abreast.faithful.happen (by rintro _ ⟨⟩)
    have hsame := loop.published_step (.tick now)
    rw [hsilent] at hsame
    have hsnapshot : (loop.step (.tick now)).2.player.snapshot = loop.player.snapshot :=
      hhappen.published_eq.symm.trans (hsame.trans abreast.faithful.published_eq)
    have hcursor : (loop.step (.tick now)).2.player.cursor = loop.player.cursor :=
      congrArg Snapshot.cursor hsnapshot
    rw [hcursor, playing]

/-- **A transcript keeps abreast of a loop while time passes.** -/
theorem runTicks (abreast : Abreast log loop transcript) (fuel : Nat) :
    Abreast log (loop.runTicks fuel limit).2
      (((loop.runTicks fuel limit).1.map Prod.snd).foldl (Transcript.observe log) transcript) :=
  Loop.runTicks_keeps (Abreast log) (Transcript.observe log)
    (fun hdue abreast => abreast.tick (Loop.playing_of_ticksBefore hdue) _) transcript abreast fuel

theorem sleepUntil (abreast : Abreast log loop transcript) (limit : Nat) :
    Abreast log (loop.sleepUntil limit).2
      (((loop.sleepUntil limit).1.map Prod.snd).foldl (Transcript.observe log) transcript) :=
  abreast.runTicks _

theorem runToEnd (abreast : Abreast log loop transcript) :
    Abreast log loop.runToEnd.2
      ((loop.runToEnd.1.map Prod.snd).foldl (Transcript.observe log) transcript) :=
  abreast.runTicks _

end Abreast

/-! ### Undisturbed playbacks -/

/-- A log with a second step can be played. -/
theorem Player.playing_play_ofLog (h : log.maxStep ≠ 0) :
    (Player.ofLog log pacing).play.2.cursor.playing = true := by
  have hend : (Player.ofLog log pacing).atEnd = false :=
    decide_eq_false (Nat.not_le.2 (Nat.pos_of_ne_zero h))
  simp only [play, hend, Bool.false_eq_true, if_false]
  split
  · next hplaying => exact hplaying
  · rfl

/-- All times of the log can be scaled by the speed of the playback. -/
def Scalable (log : Log) (pacing : Pacing) : Prop :=
  ∀ event ∈ log.events.tail,
    ∃ span, Delta.scaled event.delta (pacing.usable pacing.defaultSpeed) = .ok span

theorem Player.measured_ofLog (scalable : Scalable log pacing) :
    (Player.ofLog log pacing).Measured := by
  intro event hevent
  obtain ⟨span, hspan⟩ := scalable event hevent
  have hscaled : Delta.scaled event.delta (Player.ofLog log pacing).cursor.speed = .ok span := hspan
  exact ⟨_, by rw [waitFor, hscaled]; rfl⟩

namespace Showing

/-- The loop of an undisturbed playback after it was told to play. -/
def begun (log : Log) (pacing : Pacing) (period : Nat) : Option Snapshot × Loop :=
  (Loop.start (Player.ofLog log pacing) period 0).step (.command 0 .play)

theorem begun_eq (log : Log) (pacing : Pacing) (period : Nat) :
    begun log pacing period =
      ({ Loop.start (.ofLog log pacing) period 0 with
        player := (Player.ofLog log pacing).play.2 } : Loop).publish := by
  have hstep : begun log pacing period =
      ((Loop.start (.ofLog log pacing) period 0).receive 0 .play).publish := rfl
  have hdue : (Loop.start (.ofLog log pacing) period 0).due = 0 := rfl
  rw [hstep, Loop.receive_eq, hdue, ite_self]
  rfl

/-- **It runs without breaking off**, if all times can be scaled. -/
theorem steady_begun (scalable : Scalable log pacing) (period : Nat) :
    (begun log pacing period).2.Steady := by
  have hmeasured := Player.measured_ofLog scalable
  rw [begun_eq]
  refine Loop.Steady.publish ?_
  constructor
  · rfl
  · rcases (Player.ofLog log pacing).play_eq_or with hplay | hplay
    all_goals
      rw [hplay]
      exact hmeasured
  · exact Nat.le_min.2 ⟨Nat.le_max_right _ _, by decide⟩
  · rcases (Player.ofLog log pacing).play_eq_or with hplay | hplay
    all_goals
      rw [hplay]
      rintro _ ⟨⟩

/-- **Its transcript keeps abreast of it**, if there is anything to play. -/
theorem abreast_begun (h : log.maxStep ≠ 0) (pacing : Pacing) (period : Nat) :
    Abreast log (begun log pacing period).2
      ((begun log pacing period).1.toList.foldl (Transcript.observe log) (.start log)) := by
  refine abreast_step (Watched.faithful_start log pacing period 0) rfl ?_ ?_
  · rintro _ ⟨⟩
    rfl
  · intro _
    have hplayer : (begun log pacing period).2.player = (Player.ofLog log pacing).play.2 := by
      rw [begun_eq, Loop.player_publish]
    exact (congrArg (fun player : Player => player.cursor.playing) hplayer).trans
      (Player.playing_play_ofLog h)

/-- What an undisturbed playback publishes, and the loop that it leaves. -/
theorem snapshotsOf_eq (log : Log) (pacing : Pacing) (period : Nat) :
    (snapshotsOf log pacing period).1.map Prod.snd =
        (begun log pacing period).1.toList ++
          ((begun log pacing period).2.sleepUntil 0).1.map Prod.snd ++
          ((begun log pacing period).2.sleepUntil 0).2.runToEnd.1.map Prod.snd ∧
      (snapshotsOf log pacing period).2 =
        ((begun log pacing period).2.sleepUntil 0).2.runToEnd.2 := by
  simp only [snapshotsOf, Loop.send, begun, List.map_append, Loop.map_snd_map_mk, and_self]

theorem abreast_snapshotsOf (h : log.maxStep ≠ 0) (pacing : Pacing) (period : Nat) :
    Abreast log (snapshotsOf log pacing period).2
      (((snapshotsOf log pacing period).1.map Prod.snd).foldl (Transcript.observe log)
        (.start log)) := by
  obtain ⟨hsnapshots, hloop⟩ := snapshotsOf_eq log pacing period
  rw [hsnapshots, hloop, List.foldl_append, List.foldl_append]
  exact ((abreast_begun h pacing period).sleepUntil 0).runToEnd

theorem steady_snapshotsOf (scalable : Scalable log pacing) (period : Nat) :
    (snapshotsOf log pacing period).2.Steady ∧
      (snapshotsOf log pacing period).2.player.cursor.playing = false := by
  have hsteady := (steady_begun scalable period).sleepUntil 0
  rw [(snapshotsOf_eq log pacing period).2]
  exact ⟨hsteady.runToEnd, hsteady.runToEnd_stops⟩

theorem lines_ofPlayback (h : log.maxStep ≠ 0) (pacing : Pacing) (period : Nat) :
    (ofPlayback log pacing period).lines =
      ((snapshotsOf log pacing period).1.foldl (Transcript.observeAt log)
        (.start log, (Transcript.start log).lines.map fun line => (0, line))).2 := by
  rw [ofPlayback, if_neg h]

/-- The texts of the lines are those of a transcript that looks at all snapshots. -/
theorem texts_ofPlayback (h : log.maxStep ≠ 0) (pacing : Pacing) (period : Nat) :
    (ofPlayback log pacing period).lines.map Prod.snd =
      (((snapshotsOf log pacing period).1.map Prod.snd).foldl (Transcript.observe log)
        (.start log)).lines := by
  have htimed := (Transcript.timed_start log).foldl log (snapshotsOf log pacing period).1
  rw [Transcript.Timed, Transcript.fst_foldl_observeAt] at htimed
  rw [lines_ofPlayback h, htimed]

theorem brokeOff_ofPlayback (h : log.maxStep ≠ 0) (pacing : Pacing) (period : Nat) :
    (ofPlayback log pacing period).brokeOff =
      decide ((snapshotsOf log pacing period).2.phase = .brokenOff) := by
  rw [ofPlayback, if_neg h]

/-- **An undisturbed playback comes to its end, and all lines are printed.** -/
theorem complete (scalable : Scalable log pacing) (period : Nat) :
    (ofPlayback log pacing period).brokeOff = false ∧
      ((ofPlayback log pacing period).lines.map Prod.snd).map some =
        (List.range log.length).map log.stepLine? := by
  by_cases h : log.maxStep = 0
  · have hcomplete := (Watched.faithful_start log pacing period 0).complete (.inl h)
    rw [ofPlayback, if_pos h]
    exact ⟨rfl, (congrArg (List.map some) (Transcript.timed_start log)).trans hcomplete⟩
  · obtain ⟨hsteady, hstopped⟩ := steady_snapshotsOf scalable period
    have habreast := abreast_snapshotsOf h pacing period
    have hphase : (snapshotsOf log pacing period).2.phase = .running :=
      of_decide_eq_true hsteady.running
    rw [texts_ofPlayback h, brokeOff_ofPlayback h, hphase]
    refine ⟨rfl, habreast.faithful.complete (.inr ?_)⟩
    rw [habreast.ended_eq, hstopped]
    rfl

end Showing

/-! ### Everything that is printed -/

/-- **The lines of the first steps are printed at every moment**, in whatever order the loop and its
transcript take their turns, and all lines at the end. -/
theorem Watched.prints_in_order (log : Log) (pacing : Pacing) (period : Nat) :
    (∀ now moves,
      let watched := run log pacing period now moves
      (∀ shown, shown <+: watched.transcript.lines →
        ∃ count ≤ watched.loop.player.cursor.step + 1,
          shown.map some = (List.range count).map log.stepLine?) ∧
      (log.maxStep = 0 ∨ watched.transcript.ended = true →
        watched.transcript.lines.map some = (List.range log.length).map log.stepLine?) ∧
      (watched.loop.player.cursor.playing = false → watched.loop.player.cursor.step ≠ 0 →
        (watched.look log).transcript.ended = true)) ∧
    (Scalable log pacing →
      (Showing.ofPlayback log pacing period).brokeOff = false ∧
        ((Showing.ofPlayback log pacing period).lines.map Prod.snd).map some =
          (List.range log.length).map log.stepLine?) := by
  refine ⟨fun now moves => ?_, fun scalable => Showing.complete scalable period⟩
  have hfaithful := faithful_run log pacing period now moves
  exact ⟨fun _ => hfaithful.shown, hfaithful.complete, hfaithful.ended_look⟩

/-- A playback of three lines with a single look, after its end. -/
def oneLook : List Watched.Move :=
  [.plays 0, .ticks 0, .ticks 400000000, .ticks 800000000, .looks]

/-- One look after the end prints all three lines, and so do looks all the time. -/
theorem Watched.prints_in_order_threeLines :
    (run Player.threeLines .standard 16000000 0 oneLook).transcript.ended = true ∧
      (run Player.threeLines .standard 16000000 0 oneLook).transcript.lines.map some =
        (List.range 3).map Player.threeLines.stepLine? ∧
      Scalable Player.threeLines .standard ∧
      ((Showing.ofPlayback Player.threeLines .standard 16000000).lines.map Prod.snd).map some =
        (List.range 3).map Player.threeLines.stepLine? := by
  have hended : (run Player.threeLines .standard 16000000 0 oneLook).transcript.ended = true := by
    decide +kernel
  have hscalable : Scalable Player.threeLines .standard := by
    intro event hevent
    have hdelta : event.delta = 0 := by
      rcases List.mem_pair.1 hevent with rfl | rfl <;> rfl
    rw [hdelta]
    exact ⟨0, Player.scaled_zero_standard⟩
  have hlength : Player.threeLines.length = 3 := rfl
  have hprints := prints_in_order Player.threeLines .standard 16000000
  rw [hlength] at hprints
  obtain ⟨-, hlines, -⟩ := hprints.1 0 oneLook
  exact ⟨hended, hlines (.inr hended), hscalable, (hprints.2 hscalable).2⟩

end TracePlayer
