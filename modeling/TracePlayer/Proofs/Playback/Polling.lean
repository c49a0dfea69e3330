/-
**Ticks between commands.**

A player that waits tells how long.  The time at which the wait ends is settled by the first tick
that finds the wait in force, and no later tick moves it: ticks before that time change nothing, and
the first one after it takes the step.  So a player can be polled at any times; a step is taken at
the first poll after its wait, and whoever polls more often is never behind.

Main definitions:

* `Player.trail`: what some ticks report and leave, one after the other;
* `Player.Waits`: a playback whose wait counts;
* `Player.Leads`: **the invariant** of two players of which one is polled whenever the other one is.

Main results:

* `Player.Waits.tick_waiting`: a tick before the end of a wait tells the rest of it and changes
  nothing;
* `Player.deadline_stands`: **a wait ends when it was said to end**, however often the player is
  polled until then;
* `Player.Leads.tick`, `Player.Leads.tick_both`: one more tick of the one, or of both;
* `Player.never_behind`: **whoever polls more often is never behind**.
-/
import TracePlayer.Proofs.Playback.Ending
import TracePlayer.Proofs.Playback.Pace

set_option autoImplicit false

namespace TracePlayer.Player

variable {player next : Player} {now time wait remaining : Nat}
  {outcome : TickOutcome} {times coarse fine : List Nat}

/-! ### Several ticks -/

/-- What some ticks report and leave, one after the other. -/
def trail (player : Player) : List Nat → Except DurationOverflow (List (TickOutcome × Player))
  | [] => .ok []
  | now :: rest => do
      let result ← player.tick now
      let results ← result.2.trail rest
      return result :: results

theorem trail_cons_eq_ok_iff {results : List (TickOutcome × Player)} :
    player.trail (now :: times) = .ok results ↔
      ∃ result rest, player.tick now = .ok result ∧ result.2.trail times = .ok rest ∧
        result :: rest = results := by
  rw [trail]
  cases player.tick now with
  | error fault => simp [bind, Except.bind]
  | ok result =>
      cases hrest : result.2.trail times with
      | error fault => simp [bind, Except.bind, hrest]
      | ok rest => simp [bind, Except.bind, pure, Except.pure, hrest]

/-- Ticks of a player whose waits can be measured all go through. -/
theorem Measured.exists_trail (measured : player.Measured) (times : List Nat) :
    ∃ results, player.trail times = .ok results ∧ results.length = times.length := by
  induction times generalizing player with
  | nil => exact ⟨[], rfl, rfl⟩
  | cons now rest ih =>
      obtain ⟨outcome, next, htick⟩ := measured.exists_tick now
      obtain ⟨results, hrest, hlength⟩ := ih (measured.tick htick)
      exact ⟨_, trail_cons_eq_ok_iff.2 ⟨_, _, htick, hrest, rfl⟩, congrArg (· + 1) hlength⟩

/-! ### The end of a wait -/

/-- A player that counts a wait from a time that has come. -/
structure Waits (player : Player) (baseline wait : Nat) : Prop where
  playing : player.cursor.playing = true
  force : player.WaitInForce wait
  baseline_eq : player.baseline = some baseline

namespace Waits

variable {baseline : Nat}

/-- A tick before the end of a wait tells the rest of it and changes nothing. -/
theorem tick_waiting (waits : player.Waits baseline wait) (hfrom : baseline ≤ now)
    (hto : now < baseline + wait) :
    player.tick now = .ok (.waiting (baseline + wait - now), player) := by
  have hsame : { player with baseline := some (player.baseline.getD now) } = player := by
    rw [waits.baseline_eq, Option.getD_some, ← waits.baseline_eq]
  have helapsed : wait - (now - player.baseline.getD now) = baseline + wait - now := by
    rw [waits.baseline_eq, Option.getD_some]
    omega
  have hearly : now - player.baseline.getD now < wait := by
    rw [waits.baseline_eq, Option.getD_some]
    omega
  have hticks := Ticks.wait waits.playing waits.force hearly
  rw [hsame, helapsed] at hticks
  exact tick_eq_ok_iff.2 hticks

/-- The first tick after it takes one step. -/
theorem tick_due (waits : player.Waits baseline wait) (hdue : baseline + wait ≤ now) :
    ∃ outcome next, player.tick now = .ok (outcome, next) ∧ outcome.moved = true ∧
      next.cursor.step = player.cursor.step + 1 := by
  have hover : wait ≤ now - player.baseline.getD now := by
    rw [waits.baseline_eq, Option.getD_some]
    omega
  rcases Nat.lt_or_ge (player.cursor.step + 1) player.maxStep with hmore | hlast
  · exact ⟨_, _, tick_eq_ok_iff.2 (.advance waits.playing waits.force hover hmore), rfl, rfl⟩
  · exact ⟨_, _, tick_eq_ok_iff.2 (.finish waits.playing waits.force hover hlast), rfl, rfl⟩

/-- Any number of ticks before the end of a wait. -/
theorem trail_waiting (waits : player.Waits baseline wait)
    (hbetween : ∀ time ∈ times, baseline ≤ time ∧ time < baseline + wait) :
    player.trail times =
      .ok (times.map fun time => (.waiting (baseline + wait - time), player)) := by
  induction times with
  | nil => rfl
  | cons now rest ih =>
      obtain ⟨⟨hfrom, hto⟩, hothers⟩ := List.forall_mem_cons.1 hbetween
      rw [List.map_cons]
      exact trail_cons_eq_ok_iff.2 ⟨_, _, waits.tick_waiting hfrom hto, ih hothers, rfl⟩

end Waits

/-- A tick that reports a wait leaves a player that counts it. -/
theorem waits_of_tick (h : player.tick now = .ok (.waiting remaining, next)) :
    ∃ wait, next.Waits (player.baseline.getD now) wait ∧
      remaining = wait - (now - player.baseline.getD now) ∧
      now - player.baseline.getD now < wait ∧ next.cursor = player.cursor := by
  cases tick_eq_ok_iff.1 h with
  | wait playing force early => exact ⟨_, ⟨playing, force, rfl⟩, rfl, early, rfl⟩

/-- When the clock never goes back, no wait counts from a time that is still to come. -/
theorem getD_baseline_le {log : Log} {pacing : Pacing} {actions : List Action}
    (run : (ofLog log pacing).performAll actions = .ok player)
    (clocked : Clocked (actions ++ [.tick now])) : player.baseline.getD now ≤ now := by
  cases hbaseline : player.baseline with
  | none => exact Nat.le_refl now
  | some baseline =>
      rcases mem_baseline_performAll run hbaseline with hstart | htick
      · cases hstart
      · unfold Clocked tickTimes at clocked
        rw [List.filterMap_append] at clocked
        exact (List.pairwise_append.1 clocked).2.2 baseline htick now (by simp [Action.time?])

/-- **A wait ends when it was said to end.**  Ticks before that time tell the rest of it and leave
the player as it is, however many there are; the first one after it takes one step. -/
theorem deadline_stands {log : Log} {pacing : Pacing} {actions : List Action}
    (run : (ofLog log pacing).performAll actions = .ok player)
    (clocked : Clocked (actions ++ [.tick now]))
    (waiting : player.tick now = .ok (.waiting remaining, next)) :
    next.cursor = player.cursor ∧
      (∀ times, (∀ time ∈ times, now ≤ time ∧ time < now + remaining) →
        next.trail times =
          .ok (times.map fun time => (.waiting (now + remaining - time), next))) ∧
      ∀ time, now + remaining ≤ time →
        ∃ outcome last, next.tick time = .ok (outcome, last) ∧ outcome.moved = true ∧
          last.cursor.step = next.cursor.step + 1 := by
  obtain ⟨wait, waits, hremaining, hearly, hcursor⟩ := waits_of_tick waiting
  have hbaseline := getD_baseline_le run clocked
  -- The time at which the wait ends, counted from the baseline and from the tick.
  have hend : player.baseline.getD now + wait = now + remaining := by omega
  refine ⟨hcursor, fun times hbetween => ?_, fun time hdue => waits.tick_due (hend ▸ hdue)⟩
  rw [← hend] at hbetween ⊢
  refine waits.trail_waiting fun time htime => ?_
  exact (hbetween time htime).imp_left hbaseline.trans

/-- Three lines, played on after a pause. -/
def resuming : List Action := [.command .play, .tick 0, .command .pause, .command .play]

/-- The player of three lines that was started again and ticked once. -/
def resumed : Player := { threeLinesWaiting with baseline := some 100000000 }

theorem waitInForce_resumed : resumed.WaitInForce 400000000 :=
  ⟨_, _, rfl, scaled_zero_standard, by decide⟩

/-- The wait is a new one after the pause, and stands through three polls. -/
theorem deadline_stands_resumed :
    (ofLog threeLines .standard).performAll resuming = .ok { resumed with baseline := none } ∧
      Clocked (resuming ++ [.tick 100000000]) ∧
      Player.tick { resumed with baseline := none } 100000000 =
        .ok (.waiting 400000000, resumed) ∧
      resumed.trail [100000000, 450000000, 499999999] =
        .ok [(.waiting 400000000, resumed), (.waiting 50000000, resumed), (.waiting 1, resumed)] ∧
      ∃ outcome last, resumed.tick 500000000 = .ok (outcome, last) ∧ outcome.moved = true ∧
        last.cursor.step = 1 := by
  have hfirst : (ofLog threeLines .standard).play.2.tick 0 =
      .ok (.waiting 400000000, threeLinesWaiting) :=
    tick_eq_ok_iff.2 (.wait rfl waitInForce_resumed (by decide))
  have hrun : (ofLog threeLines .standard).performAll resuming =
      .ok { resumed with baseline := none } := by
    refine performAll_cons_eq_ok_iff.2 ⟨_, rfl, ?_⟩
    exact performAll_cons_eq_ok_iff.2
      ⟨threeLinesWaiting, perform_tick_eq_ok_iff.2 ⟨_, hfirst⟩, rfl⟩
  have hclocked : Clocked (resuming ++ [.tick 100000000]) := by decide
  have hwaiting : Player.tick { resumed with baseline := none } 100000000 =
      .ok (.waiting 400000000, resumed) :=
    tick_eq_ok_iff.2 (.wait rfl waitInForce_resumed (by decide))
  obtain ⟨-, hpolled, hdue⟩ := deadline_stands hrun hclocked hwaiting
  exact ⟨hrun, hclocked, hwaiting, hpolled _ (by decide), hdue _ (by decide)⟩

/-! ### Ticks and the cursor -/

theorem step_le_of_tick (h : player.tick now = .ok (outcome, next)) :
    player.cursor.step ≤ next.cursor.step := by
  cases tick_eq_ok_iff.1 h with
  | idle | stop | wait => exact Nat.le_refl _
  | finish | advance => exact Nat.le_succ _

/-- A playback that runs on after a tick counts a wait. -/
theorem exists_baseline_of_tick (h : player.tick now = .ok (outcome, next))
    (playing : next.cursor.playing = true) : ∃ baseline, next.baseline = some baseline := by
  cases tick_eq_ok_iff.1 h with
  | idle stopped =>
      rw [stopped] at playing
      cases playing
  | stop | finish => cases playing
  | wait | advance => exact ⟨_, rfl⟩

/-! ### Two players -/

/-- Two players of the same log at the same pace. -/
structure SamePace (first second : Player) : Prop where
  log_eq : first.log = second.log
  pacing_eq : first.pacing = second.pacing
  speed_eq : first.cursor.speed = second.cursor.speed

namespace SamePace

variable {first second : Player}

theorem symm (same : first.SamePace second) : second.SamePace first :=
  ⟨same.log_eq.symm, same.pacing_eq.symm, same.speed_eq.symm⟩

theorem maxStep_eq (same : first.SamePace second) : first.maxStep = second.maxStep :=
  congrArg Log.maxStep same.log_eq

/-- A tick of the first one changes nothing of this. -/
theorem tick (same : first.SamePace second) (h : first.tick now = .ok (outcome, next)) :
    next.SamePace second := by
  cases tick_eq_ok_iff.1 h with
  | idle | stop | wait | finish | advance => exact ⟨same.log_eq, same.pacing_eq, same.speed_eq⟩

/-- They wait equally long on the same step. -/
theorem wait_eq {wait' : Nat} (same : first.SamePace second)
    (hstep : first.cursor.step = second.cursor.step) (hfirst : first.WaitInForce wait)
    (hsecond : second.WaitInForce wait') : wait = wait' := by
  obtain ⟨event, span, hevent, hspan, rfl⟩ := hfirst
  obtain ⟨event', span', hevent', hspan', rfl⟩ := hsecond
  rw [same.log_eq, hstep, hevent'] at hevent
  obtain rfl := Option.some_inj.1 hevent
  rw [same.speed_eq, hspan'] at hspan
  obtain rfl := Except.ok.inj hspan
  rw [same.pacing_eq]

end SamePace

/-- **The invariant** of two players, of which one has been polled whenever the other one was, and
all of it up to a time.  On the same step the wait counts from no later time. -/
inductive Leads (time : Nat) (often rarely : Player) : Prop
  /-- It has come to the last step. -/
  | ended (last : often.maxStep ≤ often.cursor.step)
  /-- It is further. -/
  | further (step_lt : rarely.cursor.step < often.cursor.step)
      (playing : often.cursor.playing = true) (come : ∀ baseline ∈ often.baseline, baseline ≤ time)
  /-- It is as far. -/
  | level (step_eq : rarely.cursor.step = often.cursor.step)
      (playing : rarely.cursor.playing = true → often.cursor.playing = true)
      (before : ∀ now, time ≤ now → often.baseline.getD now ≤ rarely.baseline.getD now)

namespace Leads

variable {often rarely often' rarely' : Player} {outcome' : TickOutcome}

theorem refl (time : Nat) (player : Player) : Leads time player player :=
  .level rfl id fun _ _ => Nat.le_refl _

theorem step_le (leads : Leads time often rarely) (same : often.SamePace rarely)
    (sound : rarely.Sound) : rarely.cursor.step ≤ often.cursor.step := by
  cases leads with
  | ended last =>
      have hmax := same.maxStep_eq
      have hle := sound.step_le
      omega
  | further step_lt => exact Nat.le_of_lt step_lt
  | level step_eq => exact Nat.le_of_eq step_eq

theorem getD_mono (baseline : Option Nat) {earlier later : Nat} (h : earlier ≤ later) :
    baseline.getD earlier ≤ baseline.getD later := by
  cases baseline with
  | none => exact h
  | some baseline => exact Nat.le_refl _

theorem getD_le {baseline : Option Nat} (come : ∀ time' ∈ baseline, time' ≤ time)
    (late : time ≤ now) : baseline.getD now ≤ now := by
  cases baseline with
  | none => exact Nat.le_refl _
  | some baseline => exact (come baseline rfl).trans late

/-- One more tick of the player that is polled more often. -/
theorem tick (leads : Leads time often rarely) (same : often.SamePace rarely)
    (sound : rarely.Sound) (late : time ≤ now) (h : often.tick now = .ok (outcome, often')) :
    Leads now often' rarely := by
  have hle := leads.step_le same sound
  cases tick_eq_ok_iff.1 h with
  | idle =>
      cases leads with
      | ended last => exact .ended last
      | further step_lt playing come =>
          exact .further step_lt playing fun baseline hmem => (come baseline hmem).trans late
      | level step_eq playing before =>
          exact .level step_eq playing fun later hlater => before later (late.trans hlater)
  | stop playing last =>
      have hlength := List.getElem?_eq_none_iff.1 last
      refine .ended (?_ : often.maxStep ≤ often.cursor.step)
      unfold maxStep Log.maxStep
      omega
  | finish _ _ _ last => exact .ended last
  | wait playing =>
      cases leads with
      | ended last => exact .ended last
      | further step_lt _ come =>
          refine .further step_lt playing ?_
          rintro _ ⟨⟩
          exact getD_le come late
      | level step_eq _ before =>
          refine .level step_eq (fun _ => playing) fun later hlater => ?_
          exact (before now late).trans (getD_mono _ hlater)
  | advance playing =>
      refine .further (Nat.lt_succ_of_le hle) playing ?_
      rintro _ ⟨⟩
      exact Nat.le_refl _

/-- A player that has still to wait is not passed by one that counts from a later time. -/
theorem passes (leads : Leads time often rarely) (same : often.SamePace rarely) (late : time ≤ now)
    (h : often.tick now = .ok (outcome, often')) (playing : rarely.cursor.playing = true)
    (force : rarely.WaitInForce wait) (due : wait ≤ now - rarely.baseline.getD now) :
    rarely.cursor.step < often'.cursor.step := by
  have hlength := force.lt_length
  have hmax := same.maxStep_eq
  have hrarely : rarely.cursor.step + 1 ≤ rarely.maxStep := by
    unfold maxStep Log.maxStep
    omega
  cases leads with
  | ended last =>
      have hle := step_le_of_tick h
      omega
  | further step_lt =>
      have hle := step_le_of_tick h
      omega
  | level step_eq hplaying before =>
      have hbefore := before now late
      cases tick_eq_ok_iff.1 h with
      | idle stopped =>
          rw [hplaying playing] at stopped
          cases stopped
      | stop _ last =>
          have hnone := List.getElem?_eq_none_iff.1 last
          rw [same.log_eq] at hnone
          omega
      | wait _ hforce early =>
          have hwait := same.wait_eq step_eq.symm hforce force
          omega
      | finish | advance => exact Nat.lt_succ_of_le (Nat.le_of_eq step_eq)

/-- **One more tick of both.**  A player that takes a step counts its next wait from now on, and the
other one has taken this step before, or takes it now. -/
theorem tick_both (leads : Leads time often rarely) (same : often.SamePace rarely)
    (sound : rarely.Sound) (late : time ≤ now) (h : often.tick now = .ok (outcome, often'))
    (h' : rarely.tick now = .ok (outcome', rarely')) : Leads now often' rarely' := by
  have hmax := (same.tick h).maxStep_eq
  have hrest := leads.tick same sound late h
  cases tick_eq_ok_iff.1 h' with
  | idle => exact hrest
  | stop _ last =>
      have hle := hrest.step_le (same.tick h) sound
      have hlast := sound.step_eq_maxStep last
      exact .ended (by omega)
  | wait playing =>
      cases hrest with
      | ended last => exact .ended last
      | further step_lt hplaying come => exact .further step_lt hplaying come
      | level step_eq hplaying before =>
          refine .level step_eq hplaying fun later hlater => ?_
          obtain ⟨baseline, hbaseline⟩ := exists_baseline_of_tick h (hplaying playing)
          have hbefore := before now (Nat.le_refl _)
          rw [hbaseline] at hbefore ⊢
          exact hbefore
  | finish playing force due last =>
      have hpasses := leads.passes same late h playing force due
      exact .ended (by omega)
  | advance playing force due =>
      have hpasses := leads.passes same late h playing force due
      cases hrest with
      | ended last => exact .ended last
      | level step_eq => omega
      | further _ hplaying come =>
          rcases Nat.lt_or_eq_of_le (Nat.succ_le_of_lt hpasses) with hlt | heq
          · exact .further hlt hplaying come
          · refine .level heq (fun _ => hplaying) fun later hlater => ?_
            obtain ⟨baseline, hbaseline⟩ := exists_baseline_of_tick h hplaying
            rw [hbaseline]
            exact come baseline hbaseline

/-- **What the ticks of two runs come to**, when all ticks of the one are ticks of the other. -/
theorem performAll (leads : Leads time often rarely) (same : often.SamePace rarely)
    (sound : rarely.Sound) (sub : coarse.Sublist fine) (sorted : (time :: fine).Pairwise (· ≤ ·))
    (h : often.performAll (fine.map .tick) = .ok often')
    (h' : rarely.performAll (coarse.map .tick) = .ok rarely') :
    rarely'.cursor.step ≤ often'.cursor.step := by
  induction sub generalizing time often rarely with
  | slnil =>
      obtain rfl := performAll_nil_eq_ok_iff.1 h
      obtain rfl := performAll_nil_eq_ok_iff.1 h'
      exact leads.step_le same sound
  | cons now sub ih =>
      obtain ⟨hlate, hsorted⟩ := List.pairwise_cons.1 sorted
      obtain ⟨middle, hfirst, hrest⟩ := performAll_cons_eq_ok_iff.1 h
      obtain ⟨outcome, htick⟩ := perform_tick_eq_ok_iff.1 hfirst
      have hleads := leads.tick same sound (hlate now List.mem_cons_self) htick
      exact ih hleads (same.tick htick) sound hsorted hrest h'
  | cons_cons now sub ih =>
      obtain ⟨hlate, hsorted⟩ := List.pairwise_cons.1 sorted
      obtain ⟨middle, hfirst, hrest⟩ := performAll_cons_eq_ok_iff.1 h
      obtain ⟨middle', hfirst', hrest'⟩ := performAll_cons_eq_ok_iff.1 h'
      obtain ⟨outcome, htick⟩ := perform_tick_eq_ok_iff.1 hfirst
      obtain ⟨outcome', htick'⟩ := perform_tick_eq_ok_iff.1 hfirst'
      have hleads := leads.tick_both same sound (hlate now List.mem_cons_self) htick htick'
      have hsame := ((same.tick htick).symm.tick htick').symm
      exact ih hleads hsame (sound.tick htick') hsorted hrest hrest'

end Leads

/-! ### Polling more often -/

/-- What a tick of a trail leaves is what the ticks up to it make of the player. -/
theorem performAll_of_trail {results : List (TickOutcome × Player)} {i : Nat}
    (h : player.trail times = .ok results) (hi : results[i]? = some (outcome, next)) :
    player.performAll ((times.take (i + 1)).map .tick) = .ok next := by
  induction times generalizing player results i with
  | nil =>
      obtain rfl := Except.ok.inj h
      simp at hi
  | cons now rest ih =>
      obtain ⟨⟨reported, left⟩, others, htick, hothers, rfl⟩ := trail_cons_eq_ok_iff.1 h
      rw [List.take_succ_cons, List.map_cons, performAll_cons_eq_ok_iff]
      refine ⟨left, perform_tick_eq_ok_iff.2 ⟨reported, htick⟩, ?_⟩
      cases i with
      | zero =>
          obtain rfl : left = next := congrArg Prod.snd (Option.some_inj.1 hi)
          rfl
      | succ i => exact ih hothers hi

/-- The first ticks of some are among those up to the place of the last one. -/
theorem take_sublist {place : Nat → Nat}
    (increasing : ∀ i, i + 1 < coarse.length → place i < place (i + 1))
    (agree : ∀ i, i < coarse.length → fine[place i]? = coarse[i]?) {i : Nat}
    (hi : i < coarse.length) :
    (coarse.take (i + 1)).Sublist (fine.take (place i + 1)) := by
  induction i with
  | zero =>
      rw [List.take_add_one, List.take_add_one, agree 0 hi]
      exact (List.nil_sublist _).append (List.Sublist.refl _)
  | succ i ih =>
      rw [List.take_add_one (i := i + 1), List.take_add_one (i := place (i + 1)), agree (i + 1) hi]
      refine ((ih (by omega)).trans ?_).append (List.Sublist.refl _)
      exact (List.take_prefix_take_left (increasing i hi)).sublist

/-- **Whoever polls more often is never behind.**  A player that was told to play is polled at some
times, and another time at more of them; each tick of the first run is one of the second run, at
some place in it.  After this tick the second run is at least as far as the first one. -/
theorem never_behind {log : Log} {pacing : Pacing} {actions : List Action}
    (run : (ofLog log pacing).performAll actions = .ok player)
    (measured : player.play.2.Measured) (sorted : fine.Pairwise (· ≤ ·)) (place : Nat → Nat)
    (increasing : ∀ i, i + 1 < coarse.length → place i < place (i + 1))
    (agree : ∀ i, i < coarse.length → fine[place i]? = coarse[i]?) :
    ∃ rarely often, player.play.2.trail coarse = .ok rarely ∧
      player.play.2.trail fine = .ok often ∧
      ∀ i, i < coarse.length → ∃ first second, rarely[i]? = some first ∧
        often[place i]? = some second ∧ first.2.cursor.step ≤ second.2.cursor.step := by
  obtain ⟨rarely, hrarely, hlength⟩ := measured.exists_trail coarse
  obtain ⟨often, hoften, hlength'⟩ := measured.exists_trail fine
  refine ⟨rarely, often, hrarely, hoften, fun i hi => ?_⟩
  have hplace : place i < fine.length := by
    have hsome := agree i hi
    rw [List.getElem?_eq_getElem hi] at hsome
    exact (List.getElem?_eq_some_iff.1 hsome).1
  obtain ⟨first, hfirst⟩ : ∃ first, rarely[i]? = some first :=
    ⟨_, List.getElem?_eq_getElem (hlength ▸ hi)⟩
  obtain ⟨second, hsecond⟩ : ∃ second, often[place i]? = some second :=
    ⟨_, List.getElem?_eq_getElem (hlength' ▸ hplace)⟩
  refine ⟨first, second, hfirst, hsecond, ?_⟩
  have sound : player.play.2.Sound := ((sound_ofLog log pacing).performAll run).play
  have sortedFrom : (0 :: fine.take (place i + 1)).Pairwise (· ≤ ·) :=
    List.pairwise_cons.2 ⟨fun _ _ => Nat.zero_le _, sorted.take⟩
  exact (Leads.refl 0 player.play.2).performAll ⟨rfl, rfl, rfl⟩ sound
    (take_sublist increasing agree hi) sortedFrom (performAll_of_trail hoften hsecond)
    (performAll_of_trail hrarely hfirst)

theorem measured_threeLines : (ofLog threeLines .standard).play.2.Measured := by
  intro event hevent
  have hdelta : event.delta = 0 := by
    rcases List.mem_pair.1 hevent with rfl | rfl <;> rfl
  have hspan : Delta.scaled event.delta (ofLog threeLines .standard).play.2.cursor.speed = .ok 0 :=
    hdelta ▸ scaled_zero_standard
  exact ⟨_, by rw [waitFor, hspan]; rfl⟩

/-- The times of some polls. -/
def polls : List Nat := [0, 400000000, 600000000, 800000000, 900000000]

/-- Every second one of them. -/
def fewerPolls : List Nat := [0, 600000000, 900000000]

/-- Polled at every second time only, three lines are one step short of the end. -/
theorem never_behind_threeLines :
    (∀ i, i < fewerPolls.length → polls[2 * i]? = fewerPolls[i]?) ∧
      ∃ rarely often, (ofLog threeLines .standard).play.2.trail fewerPolls = .ok rarely ∧
        (ofLog threeLines .standard).play.2.trail polls = .ok often ∧
        rarely.map (fun result => result.2.cursor.step) = [0, 1, 1] ∧
        often.map (fun result => result.2.cursor.step) = [0, 1, 1, 2, 2] ∧
        ∀ i, i < fewerPolls.length → ∃ first second, rarely[i]? = some first ∧
          often[2 * i]? = some second ∧ first.2.cursor.step ≤ second.2.cursor.step := by
  have hagree : ∀ i, i < fewerPolls.length → polls[2 * i]? = fewerPolls[i]? := by decide
  obtain ⟨rarely, often, hrarely, hoften, hbehind⟩ :=
    never_behind (performAll_nil_eq_ok_iff.2 rfl) measured_threeLines (by decide) (2 * ·)
      (fun i _ => Nat.mul_lt_mul_of_pos_left (Nat.lt_succ_self i) Nat.two_pos) hagree
  have hsteps : ((ofLog threeLines .standard).play.2.trail fewerPolls).toOption.map
      (·.map fun result => result.2.cursor.step) = some [0, 1, 1] := by
    decide +kernel
  have hsteps' : ((ofLog threeLines .standard).play.2.trail polls).toOption.map
      (·.map fun result => result.2.cursor.step) = some [0, 1, 1, 2, 2] := by
    decide +kernel
  rw [hrarely] at hsteps
  rw [hoften] at hsteps'
  exact ⟨hagree, rarely, often, hrarely, hoften, Option.some.inj hsteps, Option.some.inj hsteps',
    hbehind⟩

end TracePlayer.Player
