/-
**The timetable of a playback.**

A playback that nobody disturbs takes its steps at times that can be told beforehand.  The loop
ticks at once when it is started and a tick is due once a period after that, but the timer counts
whole milliseconds, so that a tick that is due between two of them comes with the later one.  The
loop looks at the clock at no other time, and a step waits for the first tick at which its wait is
over.  The next wait begins with the tick that ended the last one, and not when that wait was over:
the roundings add up.  One step a tick is all that it takes, so that a wait of no time takes a tick
as well, but for the first one.

When the period is a whole number of milliseconds, every tick comes when it is due, and the times
are sums: each wait takes its length rounded up to whole periods.

All of this holds for playbacks that start with a whole millisecond.  A virtual clock that goes from
timer to timer shows no other times.

Main definitions:

* `hop`: the time that one step takes, in whole periods;
* `Timetable`, `Timetable.tickTime`, `Timetable.tickOf`: the times of all ticks, and the ticks that
  take the steps;
* `Timetable.arrival`: **the time at which each step is taken**;
* `Timetable.arrivalInPeriods`: the same as a sum of whole periods;
* `Loop.OnTime`: **the invariant** of a loop between two steps;
* `Loop.Reaches`: what becomes of a loop that has a number of steps to take;
* `Loop.Punctual`: a loop that keeps to its timetable.

Main results:

* `Timetable.tickOf_succ_le_iff`: a step is taken by the first tick at which its wait is over;
* `Timetable.arrival_eq_inPeriods`: the times are sums if the period is in whole milliseconds;
* `Loop.ticksBefore_sleepUntil`: no tick is left that falls due while the time passes;
* `Loop.OnTime.tick`: a tick waits on, or takes the next step on time;
* `Loop.Reaches.step_le_iff`: the steps are taken exactly if their time has come;
* `Loop.arrives_on_time`: **an undisturbed playback keeps to its timetable**, as far as timers can
  count;
* `Loop.arrives_off_time`: the times are no such sums without a period, with a part of a millisecond
  in it, or beyond the last time of a timer.
-/
import Mathlib.Algebra.Order.Floor.Div
import TracePlayer.Proofs.Playback.Ending
import TracePlayer.Proofs.Playback.Polling

set_option autoImplicit false

namespace TracePlayer

/-! ### Whole units -/

section Rounding

variable {span unit whole : Nat}

/-- No smaller number of whole units is enough. -/
theorem roundedUp_le_iff (hunit : 0 < unit) (hdvd : unit ∣ whole) :
    roundedUp span unit ≤ whole ↔ span ≤ whole := by
  obtain ⟨count, rfl⟩ := hdvd
  rw [roundedUp, Nat.mul_le_mul_left_iff hunit, Nat.div_le_iff_le_mul_add_pred hunit,
    Nat.add_le_add_iff_right]

/-- A whole number of units is reached by rounding up if less than one unit is missing. -/
theorem le_roundedUp_iff (hunit : 0 < unit) (hdvd : unit ∣ whole) :
    whole ≤ roundedUp span unit ↔ whole ≤ span + (unit - 1) := by
  obtain ⟨count, rfl⟩ := hdvd
  rw [roundedUp, Nat.mul_le_mul_left_iff hunit, Nat.le_div_iff_mul_le hunit, Nat.mul_comm]

theorem roundedUp_of_dvd (hunit : 0 < unit) (hdvd : unit ∣ span) : roundedUp span unit = span :=
  Nat.le_antisymm ((roundedUp_le_iff hunit hdvd).2 (Nat.le_refl _)) (le_roundedUp hunit span)

end Rounding

/-! ### Whole periods -/

/-- The time that a step takes, after a number of steps: its wait in whole periods.  Only the first
step may be taken by the tick that begins its wait. -/
def hop (period count wait : Nat) : Nat :=
  if count = 0 then roundedUp wait period else max period (roundedUp wait period)

section Hop

variable {period count wait : Nat}

theorem dvd_hop : period ∣ hop period count wait := by
  unfold hop
  split
  · exact dvd_roundedUp wait period
  · rcases Nat.le_total period (roundedUp wait period) with hle | hle
    · rw [Nat.max_eq_right hle]
      exact dvd_roundedUp wait period
    · exact ⟨1, by rw [Nat.max_eq_left hle, Nat.mul_one]⟩

/-- Some periods are enough for a step exactly if its wait is over by then. -/
theorem hop_le_iff (hperiod : 0 < period) {ticks : Nat} :
    hop period count wait ≤ ticks * period ↔
      (count = 0 ∨ 0 < ticks) ∧ wait ≤ ticks * period := by
  have hround : roundedUp wait period ≤ ticks * period ↔ wait ≤ ticks * period :=
    roundedUp_le_iff hperiod (Nat.dvd_mul_left _ _)
  unfold hop
  split
  · next hfirst => rw [hround, and_iff_right (Or.inl hfirst)]
  · next hlater =>
      have hleast : 1 * period ≤ ticks * period ↔ 0 < ticks := Nat.mul_le_mul_right_iff hperiod
      rw [Nat.one_mul] at hleast
      rw [Nat.max_le, hround, or_iff_right hlater, hleast]

end Hop

/-! ### The timetable -/

/-- What decides when a playback takes its steps. -/
structure Timetable where
  /-- The distance between the times at which two ticks are due. -/
  period : Nat
  /-- The time at which the playback starts. -/
  time : Nat
  /-- The step at which it starts. -/
  start : Nat
  /-- The last step. -/
  last : Nat
  /-- The wait before each step. -/
  wait : Nat → Nat

namespace Timetable

/-- The time of a tick: it is due so many periods after the start, and comes with the next whole
millisecond. -/
def tickTime (table : Timetable) (tick : Nat) : Nat :=
  roundedUp (table.time + tick * table.period) Delta.perMilli

/-- The first tick, from a given one on, that does not come before a given time. -/
def firstTick (table : Timetable) (earliest time : Nat) : Nat :=
  max earliest
    ((roundedUp time Delta.perMilli - (Delta.perMilli - 1) - table.time) ⌈/⌉ table.period)

/-- **The tick that takes a number of steps.**  Each step is taken by a tick of its own; only the
first one may be taken by the tick that begins its wait. -/
def tickOf (table : Timetable) : Nat → Nat
  | 0 => 0
  | count + 1 =>
      table.firstTick (if count = 0 then 0 else table.tickOf count + 1)
        (table.tickTime (table.tickOf count) + table.wait (table.start + count + 1))

/-- **The time at which a number of steps is taken.** -/
def arrival (table : Timetable) (count : Nat) : Nat := table.tickTime (table.tickOf count)

/-- The sum of the waits in whole periods. -/
def arrivalInPeriods (table : Timetable) : Nat → Nat
  | 0 => table.time
  | count + 1 =>
      table.arrivalInPeriods count + hop table.period count (table.wait (table.start + count + 1))

variable (table : Timetable) {count tick : Nat}

theorem tickTime_mono {first last : Nat} (h : first ≤ last) :
    table.tickTime first ≤ table.tickTime last :=
  roundedUp_mono (Nat.add_le_add_left (Nat.mul_le_mul_right _ h) _) _

/-- A tick does not come before it is due. -/
theorem le_tickTime (tick : Nat) : table.time + tick * table.period ≤ table.tickTime tick :=
  le_roundedUp (by decide) _

theorem firstTick_le_iff {earliest time : Nat} (hperiod : 0 < table.period) :
    table.firstTick earliest time ≤ tick ↔ earliest ≤ tick ∧ time ≤ table.tickTime tick := by
  have hmilli : 0 < Delta.perMilli := by decide
  -- The ticks come with whole milliseconds, so that the time may be rounded up as well.
  have hround : time ≤ table.tickTime tick ↔ roundedUp time Delta.perMilli ≤ table.tickTime tick :=
    (roundedUp_le_iff hmilli (dvd_roundedUp _ _)).symm
  rw [firstTick, Nat.max_le, ceilDiv_le_iff_le_mul hperiod, hround, tickTime,
    le_roundedUp_iff hmilli (dvd_roundedUp _ _), Nat.mul_comm table.period]
  exact and_congr_right fun _ => by omega

/-- **A step is taken by the first tick at which its wait is over.** -/
theorem tickOf_succ_le_iff (hperiod : 0 < table.period) :
    table.tickOf (count + 1) ≤ tick ↔
      (count = 0 ∨ table.tickOf count < tick) ∧
        table.arrival count + table.wait (table.start + count + 1) ≤ table.tickTime tick := by
  rw [tickOf, firstTick_le_iff table hperiod]
  refine and_congr_left' ?_
  split
  · next hfirst => exact iff_of_true (Nat.zero_le _) (.inl hfirst)
  · next hlater => exact (or_iff_right hlater).symm

theorem tickOf_lt_succ (hcount : count ≠ 0) : table.tickOf count < table.tickOf (count + 1) := by
  rw [tickOf, if_neg hcount]
  exact Nat.le_max_left _ _

theorem tickOf_le_succ (count : Nat) : table.tickOf count ≤ table.tickOf (count + 1) := by
  rcases Nat.eq_zero_or_pos count with rfl | hcount
  · exact Nat.zero_le _
  · exact Nat.le_of_lt (table.tickOf_lt_succ (Nat.ne_of_gt hcount))

theorem arrival_mono {first last : Nat} (h : first ≤ last) :
    table.arrival first ≤ table.arrival last := by
  induction h with
  | refl => exact Nat.le_refl _
  | @step last _ ih => exact ih.trans (table.tickTime_mono (table.tickOf_le_succ last))

/-- The next tick that may take a step does not come before the wait for the step began. -/
theorem arrival_le_tickTime (h : count = 0 ∨ table.tickOf count < tick) :
    table.arrival count ≤ table.tickTime tick := by
  refine table.tickTime_mono ?_
  rcases h with rfl | hlt
  · exact Nat.zero_le _
  · exact Nat.le_of_lt hlt

/-! ### Whole milliseconds -/

section Whole

variable (htime : Delta.perMilli ∣ table.time)
include htime

theorem arrival_zero : table.arrival 0 = table.time := by
  rw [arrival, tickOf, tickTime, Nat.zero_mul, Nat.add_zero, roundedUp_of_dvd (by decide) htime]

variable (hwhole : Delta.perMilli ∣ table.period)
include hwhole

/-- All ticks come when they are due. -/
theorem tickTime_eq (tick : Nat) : table.tickTime tick = table.time + tick * table.period :=
  roundedUp_of_dvd (by decide) (Nat.dvd_add htime (hwhole.mul_left tick))

/-- A step takes as many ticks as its hop takes periods. -/
theorem tickOf_succ_le_add_iff (hperiod : 0 < table.period) {ticks : Nat} :
    table.tickOf (count + 1) ≤ table.tickOf count + ticks ↔
      hop table.period count (table.wait (table.start + count + 1)) ≤ ticks * table.period := by
  rw [tickOf_succ_le_iff table hperiod, hop_le_iff hperiod, Nat.lt_add_right_iff_pos, arrival]
  simp only [table.tickTime_eq htime hwhole, Nat.add_mul]
  exact and_congr_right fun _ => by omega

theorem arrival_succ (hperiod : 0 < table.period) (count : Nat) :
    table.arrival (count + 1) =
      table.arrival count + hop table.period count (table.wait (table.start + count + 1)) := by
  obtain ⟨ticks, hticks⟩ := Nat.exists_eq_add_of_le (table.tickOf_le_succ count)
  obtain ⟨periods, hperiods⟩ :=
    @dvd_hop table.period count (table.wait (table.start + count + 1))
  have heq : ticks = periods := by
    refine eq_of_forall_ge_iff fun enough => ?_
    have hiff := @tickOf_succ_le_add_iff table count htime hwhole hperiod enough
    rwa [hticks, Nat.add_le_add_iff_left, hperiods, Nat.mul_comm table.period,
      Nat.mul_le_mul_right_iff hperiod] at hiff
  rw [arrival, arrival, table.tickTime_eq htime hwhole, table.tickTime_eq htime hwhole, hticks,
    hperiods, heq, Nat.add_mul, Nat.mul_comm table.period, Nat.add_assoc]

/-- **The times are sums of whole periods.** -/
theorem arrival_eq_inPeriods (hperiod : 0 < table.period) (count : Nat) :
    table.arrival count = table.arrivalInPeriods count := by
  induction count with
  | zero => exact table.arrival_zero htime
  | succ count ih => rw [table.arrival_succ htime hwhole hperiod, ih, arrivalInPeriods]

end Whole

end Timetable

namespace Player

/-- The wait before a step that is still to come. -/
def WaitsBefore (player : Player) (step wait : Nat) : Prop :=
  ∃ event span, player.log.event? step = some event ∧
    Delta.scaled event.delta player.cursor.speed = .ok span ∧
    wait = max span player.pacing.minWait

theorem WaitsBefore.force {player : Player} {step wait : Nat} (waits : player.WaitsBefore step wait)
    (h : step = player.cursor.step + 1) : player.WaitInForce wait := by
  subst h
  exact waits

end Player

namespace Loop

variable {loop : Loop} {limit fuel : Nat}

/-! ### Ticks that fall due -/

theorem period_step (loop : Loop) (event : Event) : (loop.step event).2.period = loop.period := by
  obtain ⟨acts, hturn⟩ := loop.exists_turns event
  generalize loop.step event = result at hturn ⊢
  cases hturn with
  | ceased | cancelled | brokeOff | unheard => rfl
  | obeyed => rw [snd_publish, receive_eq]
  | ticked => rw [snd_publish]

theorem period_after (loop : Loop) (events : List Event) :
    (loop.after events).period = loop.period := by
  induction events generalizing loop with
  | nil => rfl
  | cons event rest ih => exact (ih _).trans (loop.period_step event)

theorem running_of_ticksBefore (h : loop.ticksBefore limit = true) : loop.isRunning = true :=
  (Bool.and_eq_true_iff.1 (Bool.and_eq_true_iff.1 h).1).2

theorem firesAt_le_of_ticksBefore (h : loop.ticksBefore limit = true) : loop.firesAt ≤ limit :=
  of_decide_eq_true (Bool.and_eq_true_iff.1 h).2

theorem period_sleepUntil (loop : Loop) (limit : Nat) :
    (loop.sleepUntil limit).2.period = loop.period :=
  runTicks_keeps (fun later (_ : Unit) => later.period = loop.period) (fun _ _ => ())
    (fun _ kept => (period_step _ _).trans kept) () rfl _

/-- **What a tick that falls due comes to**: the loop breaks off, or the tick is carried out. -/
theorem step_tick_cases (h : loop.ticksBefore limit = true) :
    loop.step (.tick loop.firesAt) = (none, { loop with phase := .brokenOff }) ∨
      ∃ outcome next, loop.player.tick loop.firesAt = .ok (outcome, next) ∧
        loop.step (.tick loop.firesAt) = (loop.ticked next).publish := by
  have playing := playing_of_ticksBefore h
  have running := running_of_ticksBefore h
  cases htick : loop.player.tick loop.firesAt with
  | error fault =>
      refine .inl ?_
      simp only [step, running, playing, fire, htick, if_true]
  | ok result => exact .inr ⟨result.1, result.2, rfl, step_tick_eq running playing htick⟩

/-- A tick sets the timer, unless the loop breaks off. -/
theorem due_step_tick (h : loop.ticksBefore limit = true) :
    (loop.step (.tick loop.firesAt)).2.isRunning = false ∨
      loop.due + loop.gap ≤ (loop.step (.tick loop.firesAt)).2.due := by
  rcases step_tick_cases h with hbroke | ⟨outcome, next, -, hticked⟩
  · rw [hbroke]
    exact .inl rfl
  · rw [hticked, snd_publish]
    exact .inr loop.due_add_gap_le

theorem ticksBefore_runTicks (hgap : 0 < loop.gap)
    (enough : limit < loop.due + fuel * loop.gap) :
    (loop.runTicks fuel limit).2.ticksBefore limit = false := by
  induction fuel generalizing loop with
  | zero =>
      have hlate : ¬ loop.firesAt ≤ limit := by
        have hfires := loop.due_le_firesAt
        omega
      simp [runTicks, ticksBefore, hlate]
  | succ fuel ih =>
      cases hdue : loop.ticksBefore limit with
      | false =>
          rw [runTicks_of_not hdue]
          exact hdue
      | true =>
          have hsame : (loop.step (.tick loop.firesAt)).2.gap = loop.gap :=
            congrArg (Nat.min · thirtyYears) (loop.period_step _)
          rw [runTicks_succ hdue]
          rcases due_step_tick hdue with hceased | hlater
          · have hover : (loop.step (.tick loop.firesAt)).2.ticksBefore limit = false := by
              simp [ticksBefore, hceased]
            rw [runTicks_of_not hover]
            exact hover
          · refine ih (hsame ▸ hgap) ?_
            rw [hsame]
            rw [Nat.succ_mul] at enough
            omega

/-- **All ticks that fall due are carried out.** -/
theorem ticksBefore_sleepUntil (hgap : 0 < loop.gap) (limit : Nat) :
    (loop.sleepUntil limit).2.ticksBefore limit = false := by
  refine ticksBefore_runTicks hgap ?_
  have hlt := Nat.lt_div_mul_add (a := limit - loop.due) hgap
  rw [Nat.succ_mul]
  omega

/-! ### Steps on time -/

/-- **The invariant** of a loop that has taken a number of steps on time and has more to take. -/
structure OnTime (table : Timetable) (count : Nat) (loop : Loop) : Prop where
  running : loop.isRunning = true
  playing : loop.player.cursor.playing = true
  period_eq : loop.period = table.period
  step_eq : loop.player.cursor.step = table.start + count
  last_eq : loop.player.maxStep = table.last
  more : table.start + count < table.last
  waits : ∀ step, table.start < step → step ≤ table.last →
    loop.player.WaitsBefore step (table.wait step)
  /-- The wait counts from the tick that took the last step, or will count from the first tick. -/
  counts : loop.player.baseline.getD loop.firesAt = table.arrival count
  /-- The tick that took a step is over, and the one that takes the next step is not. -/
  ticks : ∃ number, loop.due = table.time + number * table.period ∧
    (count = 0 ∨ table.tickOf count < number) ∧ number ≤ table.tickOf (count + 1)

theorem due_ticked (near : loop.due + loop.period ≤ farthestTime) (next : Player) :
    (loop.ticked next).due = loop.due + loop.period :=
  if_neg (Nat.not_lt.2 near)

namespace OnTime

variable {table : Timetable} {count number : Nat}

theorem publish (onTime : loop.OnTime table count) : loop.publish.2.OnTime table count := by
  rw [snd_publish]
  exact { onTime with }

theorem force (onTime : loop.OnTime table count) :
    loop.player.WaitInForce (table.wait (table.start + count + 1)) := by
  refine (onTime.waits _ (by omega) onTime.more).force ?_
  rw [onTime.step_eq]

theorem firesAt_eq (hdue : loop.due = table.time + number * table.period) :
    loop.firesAt = table.tickTime number := by
  rw [firesAt, hdue, Timetable.tickTime]

/-- The timer is set for the next tick, as long as it can count so far. -/
theorem due_ticked {later : Nat} (onTime : loop.OnTime table count)
    (hdue : loop.due = table.time + number * table.period) (hle : number + 1 ≤ table.tickOf later)
    (near : table.arrival later ≤ farthestTime) (next : Player) :
    (loop.ticked next).due = table.time + (number + 1) * table.period := by
  have hnext := (table.le_tickTime (number + 1)).trans (table.tickTime_mono hle)
  have hsum : loop.due + loop.period = table.time + (number + 1) * table.period := by
    rw [hdue, onTime.period_eq, Nat.succ_mul, Nat.add_assoc]
  rw [← hsum] at hnext ⊢
  exact Loop.due_ticked (hnext.trans near) next

theorem firesAt_le (onTime : loop.OnTime table count) :
    loop.firesAt ≤ table.arrival (count + 1) := by
  obtain ⟨number, hdue, -, hlast⟩ := onTime.ticks
  rw [firesAt_eq hdue]
  exact table.tickTime_mono hlast

/-- The step is not due yet. -/
theorem wait (onTime : loop.OnTime table count)
    (near : table.arrival (count + 1) ≤ farthestTime)
    (hdue : loop.due = table.time + number * table.period) (hlt : number < table.tickOf (count + 1))
    (early : loop.firesAt - loop.player.baseline.getD loop.firesAt <
      table.wait (table.start + count + 1))
    (hfirst : count = 0 ∨ table.tickOf count < number) :
    (loop.step (.tick loop.firesAt)).2.OnTime table count := by
  have htick := Player.tick_eq_ok_iff.2 (.wait onTime.playing onTime.force early)
  rw [step_tick_eq onTime.running onTime.playing htick]
  exact publish
    { onTime with
      counts := Option.getD_some.trans onTime.counts
      ticks := ⟨number + 1, onTime.due_ticked hdue hlt near _, hfirst.imp_right Nat.lt_succ_of_lt,
        hlt⟩ }

/-- The step is taken. -/
theorem take (onTime : loop.OnTime table count)
    (hdue : loop.due = table.time + number * table.period) (heq : number = table.tickOf (count + 1))
    (late : table.wait (table.start + count + 1) ≤
      loop.firesAt - loop.player.baseline.getD loop.firesAt) :
    loop.firesAt = table.arrival (count + 1) ∧
      (loop.step (.tick loop.firesAt)).2.player.cursor.step = table.start + (count + 1) ∧
      (table.start + (count + 1) < table.last → table.arrival (count + 2) ≤ farthestTime →
        (loop.step (.tick loop.firesAt)).2.OnTime table (count + 1)) := by
  have harrival : loop.firesAt = table.arrival (count + 1) := by
    rw [firesAt_eq hdue, heq, Timetable.arrival]
  have hstep : loop.player.cursor.step + 1 = table.start + (count + 1) := by
    rw [onTime.step_eq, Nat.add_assoc]
  rcases Nat.lt_or_ge (loop.player.cursor.step + 1) loop.player.maxStep with hmore | hlast
  · have htick := Player.tick_eq_ok_iff.2 (.advance onTime.playing onTime.force late hmore)
    rw [step_tick_eq onTime.running onTime.playing htick]
    refine ⟨harrival, by rw [player_publish]; exact hstep, fun more near => publish ?_⟩
    -- The step after it is taken by a tick of its own.
    have hlater : number + 1 ≤ table.tickOf (count + 2) :=
      heq ▸ table.tickOf_lt_succ (Nat.succ_ne_zero count)
    exact
      { onTime with
        step_eq := hstep
        more := more
        counts := Option.getD_some.trans harrival
        ticks := ⟨number + 1, onTime.due_ticked hdue hlater near _, .inr (heq ▸ Nat.lt_succ_self _),
          hlater⟩ }
  · have htick := Player.tick_eq_ok_iff.2 (.finish onTime.playing onTime.force late hlast)
    rw [step_tick_eq onTime.running onTime.playing htick]
    refine ⟨harrival, by rw [player_publish]; exact hstep, fun more => ?_⟩
    rw [onTime.last_eq, hstep] at hlast
    exact absurd more (Nat.not_lt.2 hlast)

/-- **A tick waits on, or takes the next step on time.** -/
theorem tick (onTime : loop.OnTime table count)
    (near : table.arrival (count + 1) ≤ farthestTime) (hperiod : 0 < table.period) :
    (loop.step (.tick loop.firesAt)).2.OnTime table count ∨
      loop.firesAt = table.arrival (count + 1) ∧
        (loop.step (.tick loop.firesAt)).2.player.cursor.step = table.start + (count + 1) ∧
        (table.start + (count + 1) < table.last → table.arrival (count + 2) ≤ farthestTime →
          (loop.step (.tick loop.firesAt)).2.OnTime table (count + 1)) := by
  obtain ⟨number, hdue, hfirst, hlast⟩ := onTime.ticks
  -- The wait is over exactly if this is the tick that takes the step.
  have hover := @Timetable.tickOf_succ_le_iff table count number hperiod
  have hbegan := table.arrival_le_tickTime hfirst
  rw [← firesAt_eq hdue, ← onTime.counts] at hover hbegan
  rcases Nat.lt_or_ge (loop.firesAt - loop.player.baseline.getD loop.firesAt)
    (table.wait (table.start + count + 1)) with early | late
  · have hlt : number < table.tickOf (count + 1) := by
      refine Nat.lt_of_not_le fun hle => ?_
      have hcome := (hover.1 hle).2
      omega
    exact .inl (onTime.wait near hdue hlt early hfirst)
  · have hle : table.tickOf (count + 1) ≤ number := hover.2 ⟨hfirst, by omega⟩
    exact .inr (onTime.take hdue (Nat.le_antisymm hlast hle) late)

end OnTime

/-! ### Reaching a step -/

/-- **What becomes of a loop up to a time**: it is on time, with fewer steps taken than asked for,
or the time has come and it has taken them. -/
def Reaches (table : Timetable) (target limit : Nat) (loop : Loop) : Prop :=
  (∃ count, count < target ∧ loop.OnTime table count) ∨
    (table.start + target ≤ loop.player.cursor.step ∧ table.arrival target ≤ limit)

/-- No tick moves the cursor back. -/
theorem step_le_step_tick (h : loop.ticksBefore limit = true) :
    loop.player.cursor.step ≤ (loop.step (.tick loop.firesAt)).2.player.cursor.step := by
  rcases step_tick_cases h with hbroke | ⟨outcome, next, htick, hticked⟩
  · rw [hbroke]
  · rw [hticked, player_publish]
    exact Player.step_le_of_tick htick

namespace Reaches

variable {table : Timetable} {target : Nat}

theorem tick (reaches : loop.Reaches table target limit)
    (inside : table.start + target ≤ table.last)
    (near : table.arrival target ≤ farthestTime) (hperiod : 0 < table.period)
    (h : loop.ticksBefore limit = true) :
    (loop.step (.tick loop.firesAt)).2.Reaches table target limit := by
  rcases reaches with ⟨count, hcount, onTime⟩ | ⟨hstep, hcome⟩
  · have hnext := table.arrival_mono (Nat.succ_le_of_lt hcount)
    rcases onTime.tick (hnext.trans near) hperiod with hwaits | ⟨hfires, hstep, hgoes⟩
    · exact .inl ⟨count, hcount, hwaits⟩
    · rcases Nat.lt_or_eq_of_le (Nat.succ_le_of_lt hcount) with hlt | rfl
      · have hafter := table.arrival_mono (Nat.succ_le_of_lt hlt)
        exact .inl ⟨count + 1, hlt, hgoes (by omega) (hafter.trans near)⟩
      · exact .inr ⟨Nat.le_of_eq hstep.symm, hfires ▸ firesAt_le_of_ticksBefore h⟩
  · exact .inr ⟨hstep.trans (step_le_step_tick h), hcome⟩

/-- What becomes of it while the time passes. -/
theorem sleepUntil (reaches : loop.Reaches table target limit)
    (inside : table.start + target ≤ table.last)
    (near : table.arrival target ≤ farthestTime) (hperiod : 0 < table.period) :
    (loop.sleepUntil limit).2.Reaches table target limit :=
  runTicks_keeps (fun loop (_ : Unit) => loop.Reaches table target limit) (fun _ _ => ())
    (fun hdue reaches => reaches.tick inside near hperiod hdue) () reaches _

theorem mono {later : Nat} (reaches : loop.Reaches table target limit) (h : limit ≤ later) :
    loop.Reaches table target later :=
  reaches.imp_right fun ⟨hstep, hcome⟩ => ⟨hstep, hcome.trans h⟩

/-- When no tick is due any more, the steps are taken exactly if their time has come. -/
theorem step_le_iff (reaches : loop.Reaches table target limit)
    (quiet : loop.ticksBefore limit = false) :
    table.start + target ≤ loop.player.cursor.step ↔ table.arrival target ≤ limit := by
  rcases reaches with ⟨count, hcount, onTime⟩ | ⟨hstep, hcome⟩
  · have hlate : limit < loop.firesAt := by
      simpa [ticksBefore, onTime.playing, onTime.running] using quiet
    have hnext := table.arrival_mono (Nat.succ_le_of_lt hcount)
    refine iff_of_false ?_ (Nat.not_le.2 ((hlate.trans_le onTime.firesAt_le).trans_le hnext))
    rw [onTime.step_eq]
    omega
  · exact iff_of_true hstep hcome

end Reaches

/-! ### The end of the playback -/

/-- A loop that has published what can be seen, and plays until the last step. -/
structure Settled (last : Nat) (loop : Loop) : Prop where
  sound : loop.player.Sound
  last_eq : loop.player.maxStep = last
  stopped_iff : loop.player.cursor.playing = false ↔ loop.player.cursor.step = last
  published_eq : loop.published = loop.player.snapshot

namespace Settled

variable {last : Nat}

theorem tick (settled : loop.Settled last) (h : loop.ticksBefore limit = true) :
    (loop.step (.tick loop.firesAt)).2.Settled last := by
  rcases step_tick_cases h with hbroke | ⟨outcome, next, htick, hticked⟩
  · rw [hbroke]
    exact { settled with }
  · have hlast : next.maxStep = last :=
      (congrArg Log.maxStep (Player.log_tick htick)).trans settled.last_eq
    have hstopped := (settled.sound.tick_playing (playing_of_ticksBefore h) htick).2
    rw [hlast] at hstopped
    rw [hticked, snd_publish]
    exact ⟨settled.sound.tick htick, hlast, hstopped, rfl⟩

theorem sleepUntil (settled : loop.Settled last) (limit : Nat) :
    (loop.sleepUntil limit).2.Settled last :=
  runTicks_keeps (fun loop (_ : Unit) => loop.Settled last) (fun _ _ => ())
    (fun hdue settled => settled.tick hdue) () settled _

end Settled

/-! ### From the command to play -/

/-- The timetable of a loop that is told to play. -/
def timetable (loop : Loop) (time : Nat) (wait : Nat → Nat) : Timetable where
  period := loop.period
  time := time
  start := loop.player.cursor.step
  last := loop.player.maxStep
  wait := wait

section Play

variable {time : Nat} {wait : Nat → Nat}

theorem step_play (running : loop.isRunning = true) :
    loop.step (.command time .play) = (loop.receive time .play).publish := by
  rw [step, if_pos running]

theorem player_step_play (running : loop.isRunning = true) (time : Nat) :
    (loop.step (.command time .play)).2.player = loop.player.play.2 := by
  rw [step_play running, player_publish, receive_eq]
  rfl

theorem settled_play (running : loop.isRunning = true)
    (stopped : loop.player.cursor.playing = false) (sound : loop.player.Sound) (time : Nat) :
    (loop.step (.command time .play)).2.Settled loop.player.maxStep := by
  have hplayer := player_step_play running time
  have hplay : loop.player.play.2.maxStep = loop.player.maxStep ∧
      (loop.player.play.2.cursor.playing = false ↔
        loop.player.play.2.cursor.step = loop.player.maxStep) := by
    cases hend : loop.player.atEnd with
    | true =>
        have hstep := Nat.le_antisymm sound.step_le (of_decide_eq_true hend)
        simp [Player.play, stopped, hend, hstep]
    | false =>
        have hstep : loop.player.cursor.step ≠ loop.player.log.maxStep := fun heq =>
          of_decide_eq_false hend (Nat.le_of_eq heq.symm)
        simpa [Player.play, stopped, hend, Player.maxStep] using hstep
  refine ⟨?_, ?_, ?_, ?_⟩
  · exact hplayer ▸ sound.play
  · exact hplayer ▸ hplay.1
  · exact hplayer ▸ hplay.2
  · rw [hplayer, step_play running, published_publish, receive_eq]
    rfl

theorem onTime_play (running : loop.isRunning = true)
    (stopped : loop.player.cursor.playing = false)
    (more : loop.player.cursor.step < loop.player.maxStep)
    (waits : ∀ step, loop.player.cursor.step < step → step ≤ loop.player.maxStep →
      loop.player.WaitsBefore step (wait step)) :
    (loop.step (.command time .play)).2.OnTime (loop.timetable time wait) 0 := by
  have hend : loop.player.atEnd = false := decide_eq_false (Nat.not_le.2 more)
  have hplay : loop.player.play.2 =
      { loop.player with
        cursor := { loop.player.cursor with playing := true }, baseline := none } := by
    simp [Player.play, stopped, hend]
  have hreceive : loop.receive time .play =
      { loop with player := loop.player.play.2, due := time } := by
    rw [receive_eq]
    simp [Player.obey, stopped, hplay]
  rw [step_play running, hreceive, hplay]
  exact OnTime.publish
    { running := running
      playing := rfl
      period_eq := rfl
      step_eq := rfl
      last_eq := rfl
      more := more
      waits := waits
      counts := by
        rw [Option.getD_none, firesAt, Timetable.arrival, Timetable.tickOf, Timetable.tickTime,
          Nat.zero_mul]
        rfl
      ticks := ⟨0, by rw [Nat.zero_mul]; rfl, .inl rfl, Nat.zero_le _⟩ }

end Play

/-- **A playback that keeps to its timetable**, seen at a time. -/
structure Punctual (table : Timetable) (limit : Nat) (loop : Loop) : Prop where
  /-- It has taken those steps whose time has come, as far as timers can count. -/
  step_le_iff : ∀ count, table.start + count ≤ table.last → table.arrival count ≤ farthestTime →
    (table.start + count ≤ loop.player.cursor.step ↔ table.arrival count ≤ limit)
  /-- It stops exactly when it comes to the last step. -/
  stopped_iff : loop.player.cursor.playing = false ↔ loop.player.cursor.step = table.last
  /-- All of this has been published. -/
  published_eq : loop.published = loop.player.snapshot

/-- What the command to play begins. -/
theorem reaches_play {time target : Nat} {wait : Nat → Nat} (running : loop.isRunning = true)
    (stopped : loop.player.cursor.playing = false) (whole : Delta.perMilli ∣ time)
    (inside : loop.player.cursor.step + target ≤ loop.player.maxStep)
    (waits : ∀ step, loop.player.cursor.step < step → step ≤ loop.player.maxStep →
      loop.player.WaitsBefore step (wait step)) :
    (loop.step (.command time .play)).2.Reaches (loop.timetable time wait) target time := by
  cases target with
  | zero =>
      refine .inr ⟨?_, Nat.le_of_eq ((loop.timetable time wait).arrival_zero whole)⟩
      rw [player_step_play running time]
      rcases loop.player.play_eq_or with hplay | hplay
      · rw [hplay]
        exact Nat.le_refl _
      · rw [hplay]
        exact Nat.le_refl _
  | succ target =>
      refine .inl ⟨0, Nat.succ_pos target, onTime_play running stopped ?_ waits⟩
      omega

/-- **A playback that nobody disturbs keeps to its timetable**, from the whole millisecond at which
a loop that did not play is told to.  With a period in whole milliseconds, the times are sums of
whole periods. -/
theorem arrives_on_time {player : Player} (reachable : player.Reachable) (period begun : Nat)
    (events : List Event) (past : (start player period begun).after events = loop)
    (running : loop.isRunning = true) (stopped : loop.player.cursor.playing = false)
    (wait : Nat → Nat)
    (waits : ∀ step, loop.player.cursor.step < step → step ≤ loop.player.maxStep →
      loop.player.WaitsBefore step (wait step))
    {time limit : Nat} (whole : Delta.perMilli ∣ time) (late : time ≤ limit) :
    loop.period = max period Delta.perMilli ∧
      ((loop.send time .play).2.sleepUntil limit).2.Punctual (loop.timetable time wait) limit ∧
      (Delta.perMilli ∣ period → ∀ count, (loop.timetable time wait).arrival count =
        (loop.timetable time wait).arrivalInPeriods count) := by
  have hperiod : loop.period = max period Delta.perMilli := past ▸ period_after _ events
  have hpos : 0 < loop.period := by
    have hmilli : 0 < Delta.perMilli := by decide
    rw [hperiod]
    exact hmilli.trans_le (Nat.le_max_right _ _)
  have tracks := (tracks_start reachable.sound reachable.paced period begun).history events
  rw [past] at tracks
  have settled := (settled_play running stopped tracks.sound time).sleepUntil time
  have hend := settled.sleepUntil limit
  refine ⟨hperiod, ⟨?_, hend.stopped_iff, hend.published_eq⟩, fun hmillis => ?_⟩
  · intro count inside near
    have hplay := (reaches_play running stopped whole inside waits).sleepUntil inside near hpos
    have hreached := (hplay.mono late).sleepUntil inside near hpos
    have hgap : 0 < (loop.send time .play).2.gap := by
      refine Nat.lt_min.2 ⟨?_, by decide⟩
      rw [send, period_sleepUntil, period_step]
      exact hpos
    exact hreached.step_le_iff (ticksBefore_sleepUntil hgap limit)
  · have hdvd : Delta.perMilli ∣ loop.period := by
      rw [hperiod]
      rcases Nat.le_total period Delta.perMilli with hle | hle
      · rw [Nat.max_eq_right hle]
      · rwa [Nat.max_eq_left hle]
    exact (loop.timetable time wait).arrival_eq_inPeriods whole hdvd hpos

/-- Three lines with a shortest wait, at the usual speed. -/
def threeLinesAt (millis : Nat) : Player :=
  .ofLog Player.threeLines { Pacing.standard with minWaitMillis := millis }

theorem waitsBefore_threeLinesAt (millis : Nat) :
    ∀ step, 0 < step → step ≤ 2 →
      (threeLinesAt millis).WaitsBefore step (millis * Delta.perMilli) := by
  intro step hfirst hlast
  obtain rfl | rfl : step = 1 ∨ step = 2 := by omega
  · exact ⟨_, 0, rfl, Player.scaled_zero_standard, (Nat.zero_max _).symm⟩
  · exact ⟨_, 0, rfl, Player.scaled_zero_standard, (Nat.zero_max _).symm⟩

/-- With ticks every 150 milliseconds, two waits of 400 milliseconds take 900 milliseconds; with
ticks every millisecond and a half, two waits of 2 milliseconds take 5. -/
theorem arrives_on_time_threeLines :
    ((start (threeLinesAt 400) 150000000 0).isRunning = true ∧
      (start (threeLinesAt 400) 150000000 0).player.cursor.playing = false ∧
      Timetable.arrivalInPeriods ⟨150000000, 0, 0, 2, fun _ => 400000000⟩ 2 = 900000000 ∧
      Timetable.arrival ⟨150000000, 0, 0, 2, fun _ => 400000000⟩ 2 = 900000000 ∧
      (((start (threeLinesAt 400) 150000000 0).send 0 .play).2.sleepUntil 899999999).2.Punctual
        ⟨150000000, 0, 0, 2, fun _ => 400000000⟩ 899999999) ∧
    (Timetable.arrival ⟨1500000, 0, 0, 2, fun _ => 2000000⟩ 2 = 5000000 ∧
      (((start (threeLinesAt 2) 1500000 0).send 0 .play).2.sleepUntil 4999999).2.Punctual
        ⟨1500000, 0, 0, 2, fun _ => 2000000⟩ 4999999) := by
  have hreachable : ∀ millis, (threeLinesAt millis).Reachable := fun _ => ⟨_, _, [], rfl⟩
  obtain ⟨-, hwhole, hsums⟩ := arrives_on_time (hreachable 400) 150000000 0 [] rfl rfl rfl
    (fun _ => 400000000) (waitsBefore_threeLinesAt 400) (Nat.dvd_zero _) (Nat.zero_le 899999999)
  obtain ⟨-, hparts, -⟩ := arrives_on_time (hreachable 2) 1500000 0 [] rfl rfl rfl
    (fun _ => 2000000) (waitsBefore_threeLinesAt 2) (Nat.dvd_zero _) (Nat.zero_le 4999999)
  have hsum :
      Timetable.arrivalInPeriods ⟨150000000, 0, 0, 2, fun _ => 400000000⟩ 2 = 900000000 := by
    decide
  exact ⟨⟨rfl, rfl, hsum, (hsums (by decide) 2).trans hsum, hwhole⟩, by decide, hparts⟩

/-- The longest period that can be asked for, in nanoseconds. -/
def longestPeriod : Nat := (UInt64.size - 1) * Delta.perMilli

/-- A period of no time is not what the loop ticks at, a tick that is due between two milliseconds
comes with the later one, and a timer that is set beyond the last time that it can count to fires
after thirty years. -/
theorem arrives_off_time :
    ((∀ step, 0 < step → step ≤ 2 → (threeLinesAt 0).WaitsBefore step 0) ∧
      Timetable.arrivalInPeriods ⟨0, 0, 0, 2, fun _ => 0⟩ 2 = 0 ∧
      (((start (threeLinesAt 0) 0 0).send 0 .play).2.sleepUntil 0).2.player.cursor.step = 1) ∧
    ((∀ step, 0 < step → step ≤ 2 → (threeLinesAt 2).WaitsBefore step (2 * Delta.perMilli)) ∧
      Timetable.arrivalInPeriods ⟨1500000, 0, 0, 2, fun _ => 2 * Delta.perMilli⟩ 1 = 3000000 ∧
      (((start (threeLinesAt 2) 1500000 0).send 0 .play).2.sleepUntil
        2000000).2.player.cursor.step = 1) ∧
    ((∀ step, 0 < step → step ≤ 2 → (threeLinesAt 1).WaitsBefore step Delta.perMilli) ∧
      thirtyYears < Timetable.arrivalInPeriods ⟨longestPeriod, 0, 0, 2, fun _ => Delta.perMilli⟩ 1 ∧
      (((start (threeLinesAt 1) longestPeriod 0).send 0 .play).2.sleepUntil
        thirtyYears).2.player.cursor.step = 1) := by
  refine ⟨⟨?_, by decide, by decide +kernel⟩,
    ⟨waitsBefore_threeLinesAt 2, by decide, by decide +kernel⟩, ?_, by decide, by decide +kernel⟩
  · have hwaits := waitsBefore_threeLinesAt 0
    rwa [Nat.zero_mul] at hwaits
  · have hwaits := waitsBefore_threeLinesAt 1
    rwa [Nat.one_mul] at hwaits

end Loop

end TracePlayer
