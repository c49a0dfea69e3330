/-
**The pace of a run.**

Between two ticks that move the cursor lies the wait that is in force before the second one, no
matter which commands come in between.  The time from which a wait counts is not kept through a
pause, so a player that pauses and plays on waits anew; what carries the argument is that it never
lies before the last tick that moved the cursor, nor before the first tick after a new start.

Main definitions:

* `Player.Moves`: a tick that moves the cursor;
* `Player.Begins`: a command that begins the playback anew;
* `Player.tickTimes`, `Player.Clocked`: the times of the ticks of a run, and that the clock never
  goes back;
* `Player.WaitsFrom`: **the invariant** of the time from which a wait counts.

Main results:

* `Player.mem_baseline_performAll`: a wait counts from the time of a tick;
* `Player.WaitsFrom.performAll`: a run keeps the invariant, as long as its ticks come late enough;
* `Player.WaitsFrom.wait_le`: a tick that moves the cursor comes a whole wait later;
* `Player.no_step_early`: **no step is taken early**, whatever commands come in between.
-/
import TracePlayer.Proofs.Playback.Run

set_option autoImplicit false

namespace TracePlayer.Player

/-! ### Moves and new starts -/

/-- A tick that moves the cursor. -/
def Moves (player : Player) (now : Nat) (next : Player) : Prop :=
  ∃ outcome, player.tick now = .ok (outcome, next) ∧ next.cursor.step ≠ player.cursor.step

/-- A command that begins the playback anew: it goes back to the first step, takes another log, or
starts a playback that did not run. -/
def Begins (player : Player) (command : Command) : Prop :=
  command = .restart ∨ (∃ log, command = .load log) ∨
    (player.cursor.playing = false ∧ (player.obey command).2.cursor.playing = true)

/-! ### The clock -/

/-- The time of a tick. -/
def Action.time? : Action → Option Nat
  | .command _ => none
  | .tick now => some now

/-- The times of the ticks of a run. -/
def tickTimes (actions : List Action) : List Nat := actions.filterMap Action.time?

/-- The clock never goes back during a run. -/
def Clocked (actions : List Action) : Prop := (tickTimes actions).Pairwise (· ≤ ·)

instance (actions : List Action) : Decidable (Clocked actions) :=
  inferInstanceAs (Decidable ((tickTimes actions).Pairwise (· ≤ ·)))

/-- Whether an action is a command, or a tick at a given time or later. -/
def Action.NotBefore (time : Nat) (action : Action) : Prop := ∀ now ∈ action.time?, time ≤ now

variable {player next last : Player} {now time : Nat} {outcome : TickOutcome} {command : Command}
  {action : Action} {actions : List Action}

/-- No tick of a run comes before its first one. -/
theorem Clocked.notBefore (clocked : Clocked actions)
    (first : (tickTimes actions).head? = some time) (h : action ∈ actions) :
    action.NotBefore time := by
  intro now hnow
  have hmem : now ∈ tickTimes actions := List.mem_filterMap.2 ⟨action, h, hnow⟩
  obtain ⟨rest, hrest⟩ := List.head?_eq_some_iff.1 first
  unfold Clocked at clocked
  rw [hrest] at clocked hmem
  rcases List.mem_cons.1 hmem with rfl | hlater
  · exact Nat.le_refl _
  · exact (List.pairwise_cons.1 clocked).1 now hlater

/-! ### The time from which a wait counts -/

/-- After a tick it is what it was before, or the time of the tick. -/
theorem mem_baseline_tick (h : player.tick now = .ok (outcome, next)) {baseline : Nat}
    (hbaseline : baseline ∈ next.baseline) : baseline ∈ player.baseline ∨ baseline = now := by
  cases tick_eq_ok_iff.1 h with
  | idle => exact .inl hbaseline
  | stop | finish => cases hbaseline
  | wait =>
      cases hbaseline
      cases hbefore : player.baseline with
      | none => exact .inr rfl
      | some baseline => exact .inl rfl
  | advance =>
      cases hbaseline
      exact .inr rfl

theorem mem_baseline_perform (h : player.perform action = .ok next) {baseline : Nat}
    (hbaseline : baseline ∈ next.baseline) :
    baseline ∈ player.baseline ∨ baseline ∈ action.time? := by
  cases action with
  | command command =>
      obtain rfl := Except.ok.inj h
      rcases player.baseline_obey command with heq | heq
      · exact .inl (heq ▸ hbaseline)
      · rw [heq] at hbaseline
        cases hbaseline
  | tick now =>
      obtain ⟨outcome, htick⟩ := perform_tick_eq_ok_iff.1 h
      exact (mem_baseline_tick htick hbaseline).imp_right fun heq => congrArg some heq.symm

/-- **A wait counts from the time of a tick**, or from where it counted before the run. -/
theorem mem_baseline_performAll (h : player.performAll actions = .ok next) {baseline : Nat}
    (hbaseline : baseline ∈ next.baseline) :
    baseline ∈ player.baseline ∨ baseline ∈ tickTimes actions := by
  induction actions generalizing player with
  | nil => exact .inl (performAll_nil_eq_ok_iff.1 h ▸ hbaseline)
  | cons action rest ih =>
      obtain ⟨middle, hfirst, hrest⟩ := performAll_cons_eq_ok_iff.1 h
      rcases ih hrest with hmiddle | hlater
      · refine (mem_baseline_perform hfirst hmiddle).imp_right fun htime => ?_
        exact List.mem_filterMap.2 ⟨action, List.mem_cons_self, htime⟩
      · obtain ⟨later, hmem, htime⟩ := List.mem_filterMap.1 hlater
        exact .inr (List.mem_filterMap.2 ⟨later, List.mem_cons_of_mem _ hmem, htime⟩)

/-! ### The invariant -/

/-- **The invariant**: the wait that is counted, if any, counts from `time` or later. -/
def WaitsFrom (time : Nat) (player : Player) : Prop :=
  ∀ baseline ∈ player.baseline, time ≤ baseline

/-- No wait is counted after a new start. -/
theorem baseline_of_begins (begins : player.Begins command) :
    (player.obey command).2.baseline = none := by
  rcases begins with rfl | ⟨log, rfl⟩ | ⟨stopped, playing⟩
  · rfl
  · rfl
  · cases command with
    | pause | restart | load _ => rfl
    | seek _ | seekEnd | stepForward | stepBack | setSpeed _ | speedUp | speedDown =>
        rw [playing_obey player rfl, stopped] at playing
        cases playing
    | play => exact baseline_play stopped playing
    | toggle =>
        simp only [Player.obey, toggle_of_stopped stopped] at playing ⊢
        exact baseline_play stopped playing

theorem waitsFrom_of_begins (begins : player.Begins command) (time : Nat) :
    WaitsFrom time (player.obey command).2 := by
  intro baseline hbaseline
  rw [baseline_of_begins begins] at hbaseline
  cases hbaseline

/-- A tick that moves the cursor takes the step whose wait has passed, and may stop there. -/
theorem Moves.eq_stepped (moves : player.Moves now next) :
    ∃ wait, player.WaitInForce wait ∧ wait ≤ now - player.baseline.getD now ∧
      (next = player.stepped now ∨ next = (player.stepped now).stopped) := by
  obtain ⟨outcome, htick, hmoved⟩ := moves
  cases tick_eq_ok_iff.1 htick with
  | idle | stop | wait => exact absurd rfl hmoved
  | finish _ force due => exact ⟨_, force, due, .inr rfl⟩
  | advance _ force due => exact ⟨_, force, due, .inl rfl⟩

/-- The next wait counts from the tick that moved the cursor. -/
theorem Moves.waitsFrom (moves : player.Moves now next) : WaitsFrom now next := by
  obtain ⟨_, -, -, rfl | rfl⟩ := moves.eq_stepped
  · rintro baseline ⟨⟩
    exact Nat.le_refl _
  · rintro baseline ⟨⟩

namespace WaitsFrom

/-- The time from which the next wait counts, if none is counted yet. -/
theorem le_getD (waits : WaitsFrom time player) (late : time ≤ now) :
    time ≤ player.baseline.getD now := by
  cases hbaseline : player.baseline with
  | none => exact late
  | some baseline => exact waits baseline hbaseline

/-- A run keeps the invariant, if none of its ticks comes too early. -/
theorem performAll (waits : WaitsFrom time player)
    (late : ∀ action ∈ actions, action.NotBefore time)
    (h : player.performAll actions = .ok next) : WaitsFrom time next := by
  intro baseline hbaseline
  rcases mem_baseline_performAll h hbaseline with hbefore | htick
  · exact waits baseline hbefore
  · obtain ⟨action, haction, htime⟩ := List.mem_filterMap.1 htick
    exact late action haction baseline htime

/-- **A tick that moves the cursor comes a whole wait later.** -/
theorem wait_le (waits : WaitsFrom time player) (late : time ≤ now)
    (moves : player.Moves now next) :
    ∃ wait, player.WaitInForce wait ∧ time + wait ≤ now := by
  obtain ⟨wait, hforce, hdue, -⟩ := moves.eq_stepped
  have hle := waits.le_getD late
  -- Without a wait, the time of the baseline says nothing, and it is the clock that counts.
  exact ⟨wait, hforce, by omega⟩

end WaitsFrom

/-! ### The pace -/

/-- A tick at the end of a run that moves the cursor comes a whole wait later than a time before
which there was no tick, and from before which no wait was counted. -/
theorem wait_le_of_notBefore (waits : WaitsFrom time player)
    (late : ∀ action ∈ actions ++ [.tick now], action.NotBefore time)
    (run : player.performAll actions = .ok last) (moves : last.Moves now next) :
    ∃ wait, last.WaitInForce wait ∧ time + wait ≤ now := by
  have waitsLast : WaitsFrom time last :=
    waits.performAll (fun _ h => late _ (List.mem_append_left _ h)) run
  have lateNow : time ≤ now :=
    late (.tick now) (List.mem_append_right _ List.mem_cons_self) now rfl
  exact waitsLast.wait_le lateNow moves

/-- **No step is taken early**, whatever happens before it.  Between two ticks that move the cursor
lies at least the wait that is in force before the second one.  After a new start, a tick moves the
cursor no earlier than that wait after the first tick of all. -/
theorem no_step_early :
    (∀ {before after last next : Player} {earlier now : Nat} {between : List Action},
      before.Moves earlier after → after.performAll between = .ok last → last.Moves now next →
      Clocked (.tick earlier :: between ++ [.tick now]) →
      ∃ wait, last.WaitInForce wait ∧ earlier + wait ≤ now) ∧
    (∀ {before last next : Player} {command : Command} {first now : Nat} {since : List Action},
      before.Begins command → (before.obey command).2.performAll since = .ok last →
      last.Moves now next → Clocked (since ++ [.tick now]) →
      (tickTimes (since ++ [.tick now])).head? = some first →
      ∃ wait, last.WaitInForce wait ∧ first + wait ≤ now) := by
  constructor
  · intro before after last next earlier now between hmoved run moves clocked
    -- Counted from the earlier tick on, that tick is the first one.
    refine wait_le_of_notBefore hmoved.waitsFrom (fun _ h => ?_) run moves
    exact clocked.notBefore rfl (List.mem_cons_of_mem _ h)
  · intro before last next command first now since begins run moves clocked hfirst
    refine wait_le_of_notBefore (waitsFrom_of_begins begins first) (fun _ h => ?_) run moves
    exact clocked.notBefore hfirst h

/-- The player of three lines after it was started and ticked once. -/
def threeLinesWaiting : Player :=
  { (ofLog threeLines .standard).play.2 with baseline := some 0 }

/-- Three lines follow each other in the shortest wait, also when the end is looked at between. -/
theorem no_step_early_threeLines :
    (∃ wait, threeLinesWaiting.WaitInForce wait ∧ 0 + wait ≤ 400000000) ∧
      ∃ wait, (threeLinesWaiting.stepped 400000000).WaitInForce wait ∧
        400000000 + wait ≤ 800000000 := by
  have hspan : Delta.scaled 0 threeLinesWaiting.cursor.speed = .ok 0 := scaled_zero_standard
  have hstart : ((ofLog threeLines .standard).obey .play).2.performAll [.tick 0] =
      .ok threeLinesWaiting := by
    refine performAll_cons_eq_ok_iff.2 ⟨threeLinesWaiting, ?_, rfl⟩
    exact perform_tick_eq_ok_iff.2
      ⟨_, tick_eq_ok_iff.2 (.wait rfl ⟨_, _, rfl, hspan, rfl⟩ (by decide))⟩
  have hfirst : threeLinesWaiting.Moves 400000000 (threeLinesWaiting.stepped 400000000) :=
    ⟨_, tick_eq_ok_iff.2 (.advance rfl ⟨_, _, rfl, hspan, rfl⟩ (by decide) (by decide)),
      by decide⟩
  have hsecond : (threeLinesWaiting.stepped 400000000).Moves 800000000
      ((threeLinesWaiting.stepped 400000000).stepped 800000000).stopped :=
    ⟨_, tick_eq_ok_iff.2 (.finish rfl ⟨_, _, rfl, hspan, rfl⟩ (by decide) (by decide)),
      by decide⟩
  have hbegins : (ofLog threeLines .standard).Begins .play := .inr (.inr ⟨rfl, rfl⟩)
  have hbetween : (threeLinesWaiting.stepped 400000000).performAll
      [.command .seekEnd, .command .stepBack] = .ok (threeLinesWaiting.stepped 400000000) := rfl
  constructor
  · exact no_step_early.2 hbegins hstart hfirst (by decide) rfl
  · exact no_step_early.1 hfirst hbetween hsecond (by decide)

end TracePlayer.Player
