/-
**The end of an undisturbed playback.**

A playback that nobody disturbs comes to its last step after a number of ticks that its waits
determine.  A wait takes the ticks that fit into it, one that begins it, one that ends it and, as
the timer counts whole milliseconds, one more; every tick of a playback either begins a wait, lets
the least distance between two ticks go by or ends a wait, so that one tick less is left after it.

Main definitions:

* `Player.Measured`: no wait of the log is longer than a duration can be;
* `Loop.ticksLeft`: the ticks that are left until the playback stops, at most;
* `Loop.Steady`: a loop that runs without breaking off.

Main results:

* `Loop.Steady.ticksLeft_tick`: a tick that falls due stops the playback or leaves fewer ticks;
* `Loop.Steady.runTicks_stops`: as many ticks as are left stop the playback;
* `Loop.Steady.runToEnd_stops`: **the ticks of an undisturbed playback bring it to its end**.
-/
import TracePlayer.Proofs.Playback.Chronicle

set_option autoImplicit false

namespace TracePlayer

/-! ### Waits that can be measured -/

namespace Player

variable {player next : Player} {now : Nat} {outcome : TickOutcome}

/-- No wait of the log is longer than a duration can be.  Nobody waits for the first event. -/
def Measured (player : Player) : Prop :=
  ∀ event ∈ player.log.events.tail, ∃ wait, player.waitFor event = .ok wait

/-- The next step has a wait, unless there is none. -/
theorem Measured.nextWait (measured : player.Measured) :
    player.log.event? (player.cursor.step + 1) = none ∨ ∃ wait, player.WaitInForce wait := by
  cases hevent : player.log.event? (player.cursor.step + 1) with
  | none => exact .inl rfl
  | some event =>
      have hmem : event ∈ player.log.events.tail := by
        rw [Log.event?, ← List.getElem?_tail] at hevent
        exact List.mem_of_getElem? hevent
      obtain ⟨wait, hwait⟩ := measured event hmem
      unfold waitFor at hwait
      cases hspan : Delta.scaled event.delta player.cursor.speed with
      | error fault => rw [hspan] at hwait; cases hwait
      | ok span => exact .inr ⟨_, event, span, hevent, hspan, rfl⟩

/-- A playback whose waits can be measured does not break off. -/
theorem Measured.exists_tick (measured : player.Measured) (now : Nat) :
    ∃ outcome next, player.tick now = .ok (outcome, next) := by
  cases hplaying : player.cursor.playing with
  | false => exact ⟨_, _, tick_eq_ok_iff.2 (.idle hplaying)⟩
  | true =>
      rcases measured.nextWait with hlast | ⟨wait, force⟩
      · exact ⟨_, _, tick_eq_ok_iff.2 (.stop hplaying hlast)⟩
      · exact ⟨_, _, force.tick hplaying now⟩

theorem Measured.tick (measured : player.Measured) (h : player.tick now = .ok (outcome, next)) :
    next.Measured := by
  cases tick_eq_ok_iff.1 h with
  | idle | stop | wait | finish | advance => exact measured

/-- The ticks that the wait before an event takes, at most, with a given distance between two of
them. -/
def ticksFor (player : Player) (gap : Nat) (event : Event) : Nat :=
  match player.waitFor event with
  | .ok wait => wait / gap + 3
  | .error _ => 1

/-- The ticks that the steps after a given one take, at most. -/
def ticksAfter (player : Player) (gap step : Nat) : Nat :=
  ((player.log.events.drop (step + 1)).map (player.ticksFor gap)).foldr (· + ·) 0

/-- The ticks that are left of a wait: one that ends it, and as many as it takes to get there. -/
theorem WaitInForce.ticksAfter_eq {wait : Nat} (force : player.WaitInForce wait) (gap : Nat) :
    player.ticksAfter gap player.cursor.step =
      wait / gap + 3 + player.ticksAfter gap (player.cursor.step + 1) := by
  obtain ⟨event, span, hevent, hspan, rfl⟩ := force
  obtain ⟨hlt, hget⟩ := List.getElem?_eq_some_iff.1 hevent
  have hwait : player.waitFor event = .ok (max span player.pacing.minWait) := by
    rw [waitFor, hspan]
    rfl
  simp only [ticksAfter, List.drop_eq_getElem_cons hlt, hget, List.map_cons,
    List.foldr_cons, ticksFor, hwait]

end Player

/-! ### Timers -/

namespace Loop

variable {loop : Loop} {next : Player} {outcome : TickOutcome} {fuel limit : Nat}

theorem due_le_firesAt (loop : Loop) : loop.due ≤ loop.firesAt :=
  le_roundedUp (by decide) _

theorem firesAt_lt_add (loop : Loop) : loop.firesAt < loop.due + Delta.perMilli :=
  roundedUp_lt_add (by decide) _

/-- Two ticks are due as far apart as the timer is set, but no further than it can be. -/
theorem due_add_gap_le (loop : Loop) :
    loop.due + loop.gap ≤ timerAfter loop.firesAt loop.due loop.period := by
  have hperiod : loop.gap ≤ loop.period := Nat.min_le_left _ _
  have hyears : loop.gap ≤ thirtyYears := Nat.min_le_right _ _
  have hfires := loop.due_le_firesAt
  unfold timerAfter
  split <;> omega

theorem timerAfter_le (loop : Loop) :
    timerAfter loop.firesAt loop.due loop.period ≤
      loop.firesAt + Nat.max loop.period thirtyYears := by
  have hperiod : loop.period ≤ Nat.max loop.period thirtyYears := Nat.le_max_left _ _
  have hyears : thirtyYears ≤ Nat.max loop.period thirtyYears := Nat.le_max_right _ _
  have hfires := loop.due_le_firesAt
  unfold timerAfter
  split <;> omega

/-! ### The ticks that are left -/

/-- The ticks that some time takes, and one more. -/
def ticksOf (gap span : Nat) : Nat := (span + (gap - 1)) / gap + 1

/-- The ticks that are left until the playback stops, at most.  What counts is when they are due; a
wait that has not begun begins when the timer fires. -/
def ticksLeft (loop : Loop) : Nat :=
  match loop.player.nextWait with
  | .ok (some wait) =>
      ticksOf loop.gap (loop.player.baseline.getD loop.firesAt + wait - loop.due) +
        loop.player.ticksAfter loop.gap (loop.player.cursor.step + 1)
  | _ => 1

theorem ticksLeft_pos (loop : Loop) : 0 < loop.ticksLeft := by
  unfold ticksLeft
  split
  · exact Nat.add_pos_left (Nat.succ_pos _) _
  · exact Nat.one_pos

theorem ticksLeft_of_force {wait : Nat} (force : loop.player.WaitInForce wait) :
    loop.ticksLeft =
      ticksOf loop.gap (loop.player.baseline.getD loop.firesAt + wait - loop.due) +
        loop.player.ticksAfter loop.gap (loop.player.cursor.step + 1) := by
  simp only [ticksLeft, force.nextWait]

theorem ticksLeft_publish (loop : Loop) : loop.publish.2.ticksLeft = loop.ticksLeft := by
  rw [snd_publish]
  rfl

/-- A wait takes no more ticks than were counted for it. -/
theorem ticksOf_le {gap span wait : Nat} (hgap : 0 < gap) (h : span ≤ wait + gap) :
    ticksOf gap span ≤ wait / gap + 3 := by
  have hdiv : (span + (gap - 1)) / gap ≤ (wait + gap + gap) / gap :=
    Nat.div_le_div_right (by omega)
  rw [Nat.add_div_right _ hgap, Nat.add_div_right _ hgap] at hdiv
  unfold ticksOf
  omega

/-- A tick that goes by is one less. -/
theorem ticksOf_lt {gap span rest : Nat} (hgap : 0 < gap) (hspan : 0 < span)
    (h : rest ≤ span - gap) : ticksOf gap rest < ticksOf gap span := by
  -- A rest that is shorter by a whole gap takes one tick less, also if nothing of it is left.
  have hdiv : (rest + (gap - 1)) / gap ≤ (span - 1) / gap := by
    rcases Nat.lt_or_ge span gap with hlt | hle
    · have hrest : rest = 0 := by omega
      rw [hrest, Nat.zero_add, Nat.div_eq_of_lt (Nat.sub_lt hgap Nat.one_pos)]
      exact Nat.zero_le _
    · exact Nat.div_le_div_right (by omega)
  have hnext : (span + (gap - 1)) / gap = (span - 1) / gap + 1 := by
    rw [← Nat.add_div_right _ hgap]
    congr 1
    omega
  unfold ticksOf
  omega

theorem foldr_add_one (ticks : List Nat) :
    ticks.foldr (· + ·) 1 = ticks.foldr (· + ·) 0 + 1 := by
  induction ticks with
  | nil => rfl
  | cons first rest ih => rw [List.foldr_cons, List.foldr_cons, ih, Nat.add_assoc]

/-! ### Undisturbed loops -/

/-- A loop that runs without breaking off. -/
structure Steady (loop : Loop) : Prop where
  running : loop.isRunning = true
  measured : loop.player.Measured
  /-- No two ticks are due within the same millisecond. -/
  le_gap : Delta.perMilli ≤ loop.gap
  /-- No wait counts from a time that is still to come. -/
  baseline_le : ∀ baseline ∈ loop.player.baseline, baseline ≤ loop.firesAt

/-- A loop whose player has carried out the tick that fell due. -/
def ticked (loop : Loop) (next : Player) : Loop :=
  { loop with player := next, due := timerAfter loop.firesAt loop.due loop.period }

theorem firesAt_le_ticked (loop : Loop) (next : Player) :
    loop.firesAt ≤ (loop.ticked next).firesAt :=
  roundedUp_mono ((Nat.le_add_right _ _).trans loop.due_add_gap_le) _

theorem step_tick_eq (running : loop.isRunning = true)
    (playing : loop.player.cursor.playing = true)
    (h : loop.player.tick loop.firesAt = .ok (outcome, next)) :
    loop.step (.tick loop.firesAt) = (loop.ticked next).publish := by
  simp only [step, running, playing, fire, h, if_true]
  rfl

theorem ticksLeft_ticked {wait : Nat} (force : next.WaitInForce wait) :
    (loop.ticked next).ticksLeft =
      ticksOf loop.gap (next.baseline.getD (loop.ticked next).firesAt + wait -
        timerAfter loop.firesAt loop.due loop.period) +
        next.ticksAfter loop.gap (next.cursor.step + 1) :=
  @ticksLeft_of_force (loop.ticked next) _ force

namespace Steady

theorem gap_pos (steady : loop.Steady) : 0 < loop.gap :=
  Nat.lt_of_lt_of_le (by decide) steady.le_gap

theorem publish (steady : loop.Steady) : loop.publish.2.Steady := by
  rw [snd_publish]
  exact { steady with }

/-- The tick that falls due is carried out. -/
theorem step_tick (steady : loop.Steady) (playing : loop.player.cursor.playing = true) :
    ∃ outcome next, loop.player.tick loop.firesAt = .ok (outcome, next) ∧
      loop.step (.tick loop.firesAt) = (loop.ticked next).publish := by
  obtain ⟨outcome, next, htick⟩ := steady.measured.exists_tick loop.firesAt
  exact ⟨outcome, next, htick, step_tick_eq steady.running playing htick⟩

theorem getD_baseline_le (steady : loop.Steady) :
    loop.player.baseline.getD loop.firesAt ≤ loop.firesAt := by
  cases hbaseline : loop.player.baseline with
  | none => rw [Option.getD_none]
  | some baseline => exact steady.baseline_le baseline hbaseline

theorem ticksLeft_le {wait : Nat} (steady : loop.Steady) (force : loop.player.WaitInForce wait) :
    loop.ticksLeft ≤ loop.player.ticksAfter loop.gap loop.player.cursor.step := by
  have hspan : loop.player.baseline.getD loop.firesAt + wait - loop.due ≤ wait + loop.gap := by
    have hbaseline := steady.getD_baseline_le
    have hfires := loop.firesAt_lt_add
    have hgap := steady.le_gap
    omega
  rw [ticksLeft_of_force force, force.ticksAfter_eq]
  exact Nat.add_le_add_right (ticksOf_le steady.gap_pos hspan) _

/-- The ticks with which an undisturbed playback is run are enough. -/
theorem ticksLeft_le_ticksToEnd (steady : loop.Steady) : loop.ticksLeft ≤ loop.ticksToEnd := by
  have hsum : loop.ticksToEnd = loop.player.ticksAfter loop.gap loop.player.cursor.step + 1 :=
    foldr_add_one _
  rw [hsum]
  rcases steady.measured.nextWait with hlast | ⟨wait, force⟩
  · have hone : loop.ticksLeft = 1 := by simp only [ticksLeft, Player.nextWait, hlast]
    rw [hone]
    exact Nat.le_add_left 1 _
  · exact Nat.le_succ_of_le (steady.ticksLeft_le force)

theorem ticked (steady : loop.Steady) (h : loop.player.tick loop.firesAt = .ok (outcome, next)) :
    (loop.ticked next).Steady := by
  refine
    { running := steady.running
      measured := steady.measured.tick h
      le_gap := steady.le_gap
      baseline_le := fun baseline hbaseline => Nat.le_trans ?_ (loop.firesAt_le_ticked next) }
  cases Player.tick_eq_ok_iff.1 h with
  | idle => exact steady.baseline_le baseline hbaseline
  | stop | finish => cases hbaseline
  | wait =>
      cases hbaseline
      exact steady.getD_baseline_le
  | advance =>
      cases hbaseline
      exact Nat.le_refl _

theorem tick (steady : loop.Steady) (playing : loop.player.cursor.playing = true) :
    (loop.step (.tick loop.firesAt)).2.Steady := by
  obtain ⟨outcome, next, htick, hstep⟩ := steady.step_tick playing
  rw [hstep]
  exact (steady.ticked htick).publish

/-- The timer is set again, no further ahead than it can be. -/
theorem firesAt_tick (steady : loop.Steady) (playing : loop.player.cursor.playing = true) :
    (loop.step (.tick loop.firesAt)).2.stretch = loop.stretch ∧
      (loop.step (.tick loop.firesAt)).2.firesAt ≤ loop.firesAt + loop.stretch := by
  obtain ⟨outcome, next, -, hstep⟩ := steady.step_tick playing
  rw [hstep, snd_publish]
  have hset := loop.timerAfter_le
  have hfires := (loop.ticked next).firesAt_lt_add
  refine ⟨rfl, Nat.le_of_lt (hfires.trans_le ?_)⟩
  rw [stretch, ← Nat.add_assoc]
  exact Nat.add_le_add_right hset _

/-- **A tick that falls due stops the playback or leaves fewer ticks.** -/
theorem ticksLeft_tick (steady : loop.Steady) (playing : loop.player.cursor.playing = true) :
    (loop.step (.tick loop.firesAt)).2.player.cursor.playing = false ∨
      (loop.step (.tick loop.firesAt)).2.ticksLeft < loop.ticksLeft := by
  obtain ⟨outcome, next, htick, hstep⟩ := steady.step_tick playing
  have hlater := loop.due_add_gap_le
  rw [hstep, ticksLeft_publish]
  cases Player.tick_eq_ok_iff.1 htick with
  | idle stopped => rw [stopped] at playing; cases playing
  | stop | finish => exact .inl (by rw [player_publish]; rfl)
  | @wait wait _ force early =>
      -- The wait goes on, and what is left of it is shorter by the time until the next tick.
      have hbaseline := steady.getD_baseline_le
      have hdue := loop.due_le_firesAt
      have hnext := @ticksLeft_ticked loop
        { loop.player with baseline := some (loop.player.baseline.getD loop.firesAt) } wait force
      rw [Option.getD_some] at hnext
      rw [hnext, ticksLeft_of_force force]
      exact .inr (Nat.add_lt_add_right (ticksOf_lt steady.gap_pos (by omega) (by omega)) _)
  | advance _ force due more =>
      -- The next wait takes no more ticks than were counted for it.
      have hsteady := steady.ticked htick
      rcases hsteady.measured.nextWait with hlast | ⟨wait, hforce⟩
      · have hlength : loop.player.log.events.length ≤ loop.player.cursor.step + 1 + 1 :=
          List.getElem?_eq_none_iff.1 hlast
        unfold Player.maxStep Log.maxStep at more
        omega
      · refine .inr (Nat.lt_of_le_of_lt (hsteady.ticksLeft_le hforce) ?_)
        rw [ticksLeft_of_force force]
        exact Nat.lt_add_of_pos_left (Nat.succ_pos _)

end Steady

/-! ### Running to the end -/

theorem map_snd_map_mk {Item : Type} (time : Nat) (items : List Item) :
    (items.map fun item => (time, item)).map Prod.snd = items :=
  List.map_map.trans (List.map_id' items)

theorem runTicks_of_not (h : loop.ticksBefore limit = false) (fuel : Nat) :
    loop.runTicks fuel limit = ([], loop) := by
  cases fuel <;> simp [runTicks, h]

theorem runTicks_succ (h : loop.ticksBefore limit = true) (fuel : Nat) :
    loop.runTicks (fuel + 1) limit =
      (((loop.step (.tick loop.firesAt)).1.toList.map fun snapshot => (loop.firesAt, snapshot)) ++
          ((loop.step (.tick loop.firesAt)).2.runTicks fuel limit).1,
        ((loop.step (.tick loop.firesAt)).2.runTicks fuel limit).2) := by
  simp only [runTicks, h, if_true]

/-- **What each tick that falls due keeps, all of them keep**, together with what is made of the
snapshots that they publish. -/
theorem runTicks_keeps {State : Type} (Kept : Loop → State → Prop)
    (see : State → Snapshot → State)
    (keeps : ∀ {loop state}, loop.ticksBefore limit = true → Kept loop state →
      Kept (loop.step (.tick loop.firesAt)).2
        ((loop.step (.tick loop.firesAt)).1.toList.foldl see state))
    (state : State) (kept : Kept loop state) (fuel : Nat) :
    Kept (loop.runTicks fuel limit).2
      (((loop.runTicks fuel limit).1.map Prod.snd).foldl see state) := by
  induction fuel generalizing loop state with
  | zero => exact kept
  | succ fuel ih =>
      cases hdue : loop.ticksBefore limit with
      | false =>
          rw [runTicks_of_not hdue]
          exact kept
      | true =>
          rw [runTicks_succ hdue, List.map_append, List.foldl_append, map_snd_map_mk]
          exact ih _ (keeps hdue kept)

theorem playing_of_ticksBefore (h : loop.ticksBefore limit = true) :
    loop.player.cursor.playing = true :=
  (Bool.and_eq_true_iff.1 (Bool.and_eq_true_iff.1 h).1).1

namespace Steady

/-- Time that passes leaves an undisturbed loop running. -/
theorem runTicks (steady : loop.Steady) (fuel limit : Nat) :
    (loop.runTicks fuel limit).2.Steady :=
  runTicks_keeps (fun loop (_ : Unit) => loop.Steady) (fun _ _ => ())
    (fun hdue steady => steady.tick (playing_of_ticksBefore hdue)) () steady fuel

theorem sleepUntil (steady : loop.Steady) (limit : Nat) : (loop.sleepUntil limit).2.Steady :=
  steady.runTicks _ limit

theorem runToEnd (steady : loop.Steady) : loop.runToEnd.2.Steady :=
  steady.runTicks _ _

/-- **As many ticks as are left stop the playback**, if there is time for them. -/
theorem runTicks_stops (steady : loop.Steady) {fuel limit : Nat} (enough : loop.ticksLeft ≤ fuel)
    (time : loop.firesAt + fuel * loop.stretch ≤ limit) :
    (loop.runTicks fuel limit).2.player.cursor.playing = false := by
  induction fuel generalizing loop with
  | zero => exact absurd enough (Nat.not_le.2 loop.ticksLeft_pos)
  | succ fuel ih =>
      cases playing : loop.player.cursor.playing with
      | false =>
          have hdue : loop.ticksBefore limit = false := by simp [ticksBefore, playing]
          rw [runTicks_of_not hdue]
          exact playing
      | true =>
          have hdue : loop.ticksBefore limit = true := by
            have hle : loop.firesAt ≤ limit := (Nat.le_add_right _ _).trans time
            simp [ticksBefore, playing, steady.running, hle]
          obtain ⟨hstretch, hnext⟩ := steady.firesAt_tick playing
          rw [runTicks_succ hdue]
          rcases steady.ticksLeft_tick playing with hstopped | hfewer
          · have hover : (loop.step (.tick loop.firesAt)).2.ticksBefore limit = false := by
              simp [ticksBefore, hstopped]
            rw [runTicks_of_not hover]
            exact hstopped
          · refine ih (steady.tick playing) (Nat.le_of_lt_succ (hfewer.trans_le enough)) ?_
            rw [hstretch]
            rw [Nat.succ_mul] at time
            omega

/-- **The ticks of an undisturbed playback bring it to its end.** -/
theorem runToEnd_stops (steady : loop.Steady) :
    loop.runToEnd.2.player.cursor.playing = false :=
  steady.runTicks_stops steady.ticksLeft_le_ticksToEnd (Nat.le_refl _)

end Steady

end Loop

end TracePlayer
