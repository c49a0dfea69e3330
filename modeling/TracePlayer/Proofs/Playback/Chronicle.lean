/-
**The chronicle of a playback loop.**

A loop takes commands in the order in which they are sent and ticks in between, in any order that
the two come in, until it is cancelled.  Its chronicle lists what it does: the commands and the
ticks that it carries out, the snapshots that it publishes, and its end.  A deed is judged by what
stands before it in the chronicle alone, so that a chronicle in which all deeds fit stays one when
a deed that fits is added at its end.

Main definitions:

* `Deed`, `Loop.deeds`, `Loop.chronicle`: what a loop does, in one turn and in all of them;
* `Loop.Turns`: everything that one turn can be;
* `Snapshot.Follows`: what a tick can make of a snapshot;
* `Deed.Fits`, `InOrder`: a deed agrees with everything before it, and all of them do;
* `Loop.Tracks`: **the invariant** of a loop and its chronicle so far.

Main results:

* `Snapshot.follows_of_tick`: a tick that changes what can be seen takes one step, or stops on the
  last one;
* `Loop.Tracks.turn`: one turn of the loop keeps the invariant;
* `Loop.chronicled`: **every chronicle is in order**, however commands and ticks interleave.
-/
import Mathlib.Data.List.DropRight
import TracePlayer.Playback.Loop
import TracePlayer.Proofs.Playback.Speed

set_option autoImplicit false

namespace TracePlayer

/-! ### Snapshots -/

namespace Snapshot

/-- Whether two snapshots are the same, with the speeds compared as numbers. -/
def same (first second : Snapshot) : Bool :=
  decide (first.run = second.run ∧ first.cursor.step = second.cursor.step ∧
    first.cursor.playing = second.cursor.playing ∧ first.maxStep = second.maxStep) &&
    first.cursor.speed.same second.cursor.speed

/-- **What a tick can make of a snapshot**, if it makes another one of it. -/
structure Follows (later earlier : Snapshot) : Prop where
  /-- The run is the same, and so is the speed. -/
  run_eq : later.run = earlier.run
  maxStep_eq : later.maxStep = earlier.maxStep
  speed_eq : later.cursor.speed = earlier.cursor.speed
  /-- The playback ran before. -/
  playing : earlier.cursor.playing = true
  /-- It takes one step and stops if it is the last one, or it stops where it cannot go on. -/
  moved : (later.cursor.step = earlier.cursor.step + 1 ∧
      (later.cursor.playing = false ↔ later.cursor.step = later.maxStep)) ∨
    (earlier.cursor.step = earlier.maxStep ∧ later.cursor.step = earlier.cursor.step ∧
      later.cursor.playing = false)

variable {player next : Player} {now : Nat} {outcome : TickOutcome}

/-- Snapshots whose speeds are numbers above zero are the same only if they are equal. -/
theorem eq_of_same {first second : Snapshot} (hfirst : first.cursor.speed.isPositive = true)
    (hsecond : second.cursor.speed.isPositive = true) (h : first.same second = true) :
    first = second := by
  obtain ⟨hplace, hspeeds⟩ := Bool.and_eq_true_iff.1 h
  have hspeed := Binary64.eq_of_same hfirst hsecond hspeeds
  obtain ⟨hrun, hstep, hplaying, hmax⟩ := of_decide_eq_true hplace
  obtain ⟨_, ⟨_, _, _⟩, _⟩ := first
  obtain ⟨_, ⟨_, _, _⟩, _⟩ := second
  cases hrun
  cases hstep
  cases hplaying
  cases hspeed
  cases hmax
  rfl

/-- **A tick that changes what can be seen takes one step, or stops on the last one.** -/
theorem follows_of_tick (sound : player.Sound) (h : player.tick now = .ok (outcome, next)) :
    next.snapshot = player.snapshot ∨ next.snapshot.Follows player.snapshot := by
  cases Player.tick_eq_ok_iff.1 h with
  | idle | wait => exact .inl rfl
  | stop playing last =>
      exact .inr ⟨rfl, rfl, rfl, playing, .inr ⟨sound.step_eq_maxStep last, rfl, rfl⟩⟩
  | finish playing force _ last =>
      have hle := (Player.Sound.stepped force playing now).step_le
      exact .inr ⟨rfl, rfl, rfl, playing, .inl ⟨rfl, iff_of_true rfl (Nat.le_antisymm hle last)⟩⟩
  | advance playing _ _ more =>
      have hplays := ne_false_of_eq_true playing
      exact .inr ⟨rfl, rfl, rfl, playing, .inl ⟨rfl, iff_of_false hplays (Nat.ne_of_lt more)⟩⟩

end Snapshot

/-! ### Deeds -/

/-- What a loop does: it carries out a command or a tick, publishes a snapshot, breaks off at a tick
that cannot be carried out, or ends because it is cancelled. -/
inductive Deed where
  | obeys (command : Player.Command)
  | ticks (now : Nat)
  | publishes (snapshot : Snapshot)
  | breaksOff (now : Nat)
  | ends

namespace Deed

def command? : Deed → Option Player.Command
  | obeys command => some command
  | _ => none

/-- What is done to the player. -/
def action? : Deed → Option Player.Action
  | obeys command => some (.command command)
  | ticks now => some (.tick now)
  | _ => none

def snapshot? : Deed → Option Snapshot
  | publishes snapshot => some snapshot
  | _ => none

/-- Whether a tick is carried out, or tried. -/
def isTick : Deed → Bool
  | ticks _ | breaksOff _ => true
  | _ => false

/-- Whether the loop is over then. -/
def isLast : Deed → Bool
  | breaksOff _ | ends => true
  | _ => false

end Deed

/-- The snapshot published last. -/
def latest? (deeds : List Deed) : Option Snapshot := (deeds.filterMap Deed.snapshot?).getLast?

/-- The commands carried out since then. -/
def unseen (deeds : List Deed) : List Player.Command :=
  (deeds.rtakeWhile fun deed => deed.snapshot?.isNone).filterMap Deed.command?

/-- A deed of a loop whose player is `current` fits everything that was done before. -/
structure Deed.Fits (current : Player) (before : List Deed) (deed : Deed) : Prop where
  /-- The loop was not over yet. -/
  ongoing : before.any isLast = false
  /-- No tick is carried out while the playback does not run. -/
  playing : deed.isTick = true → current.cursor.playing = true
  /-- A snapshot shows the player as it is, on a step that exists. -/
  shows : ∀ snapshot ∈ deed.snapshot?,
    snapshot = current.snapshot ∧ snapshot.cursor.step ≤ snapshot.maxStep
  /-- It differs from the snapshot before it. -/
  differs : ∀ snapshot ∈ deed.snapshot?, ∀ previous ∈ latest? before,
    snapshot.same previous = false
  /-- Without a command in between, it is what a tick can make of that. -/
  follows : ∀ snapshot ∈ deed.snapshot?, ∀ previous ∈ latest? before, unseen before = [] →
    snapshot.Follows previous

/-- **Every deed fits** what was done before it, beginning with a player. -/
def InOrder (player : Player) (deeds : List Deed) : Prop :=
  ∀ before deed after, deeds = before ++ deed :: after →
    ∃ current, player.performAll (before.filterMap Deed.action?) = .ok current ∧
      deed.Fits current before

variable {player current next : Player} {deed : Deed} {past : List Deed} {now : Nat}
  {outcome : TickOutcome} {snapshot : Snapshot}

theorem inOrder_nil (player : Player) : InOrder player [] := by
  intro before deed after hsplit
  simp at hsplit

/-- A deed that fits can be added at the end. -/
theorem InOrder.concat (ordered : InOrder player past)
    (reached : player.performAll (past.filterMap Deed.action?) = .ok current)
    (fits : deed.Fits current past) : InOrder player (past ++ [deed]) := by
  intro before other after hsplit
  rcases List.eq_nil_or_concat after with rfl | ⟨rest, last, rfl⟩
  · obtain ⟨rfl, hdeed⟩ := List.append_inj' hsplit rfl
    obtain rfl := List.singleton_inj.1 hdeed
    exact ⟨current, reached, fits⟩
  · -- Everything but the last deed stands in the chronicle so far.
    rw [List.concat_eq_append, ← List.cons_append, ← List.append_assoc] at hsplit
    exact ordered before other rest (List.append_inj' hsplit rfl).1

theorem latest?_concat_publishes (past : List Deed) (snapshot : Snapshot) :
    latest? (past ++ [.publishes snapshot]) = some snapshot := by
  simp [latest?, Deed.snapshot?]

theorem latest?_concat (past : List Deed) (h : deed.snapshot? = none) :
    latest? (past ++ [deed]) = latest? past := by
  simp [latest?, h]

theorem unseen_concat_obeys (past : List Deed) (command : Player.Command) :
    unseen (past ++ [.obeys command]) = unseen past ++ [command] := by
  unfold unseen
  rw [List.rtakeWhile_concat_pos _ _ _ rfl]
  simp [Deed.command?]

namespace Loop

variable {loop : Loop} {event : Event} {events : List Event} {period : Nat}

/-! ### Publishing -/

/-- Publishing changes nothing but what was published last. -/
theorem snd_publish (loop : Loop) :
    loop.publish.2 = { loop with published := loop.player.snapshot } := by
  unfold publish
  split
  · next hsame => rw [hsame]
  · rfl

@[simp] theorem player_publish (loop : Loop) : loop.publish.2.player = loop.player := by
  rw [snd_publish]

@[simp] theorem published_publish (loop : Loop) :
    loop.publish.2.published = loop.player.snapshot := by
  rw [snd_publish]

theorem isSome_publish (loop : Loop) :
    loop.publish.1.isSome = decide (loop.player.snapshot ≠ loop.published) := by
  unfold publish
  split
  · next hsame => simp [hsame]
  · next hdiffers => simp [hdiffers]

/-! ### The turns of a loop -/

/-- What a running loop does when something happens, before it publishes anything. -/
def acts (loop : Loop) : Event → List Deed
  | .cancel => [.ends]
  | .command _ command => [.obeys command]
  | .tick now =>
      if loop.player.cursor.playing then
        match loop.player.tick now with
        | .ok _ => [.ticks now]
        | .error _ => [.breaksOff now]
      else []

/-- What a loop does when something happens. -/
def deeds (loop : Loop) (event : Event) : List Deed :=
  (if loop.isRunning then loop.acts event else []) ++ (loop.step event).1.toList.map .publishes

/-- What a loop does while things happen. -/
def history (loop : Loop) : List Event → List Deed
  | [] => []
  | event :: rest => loop.deeds event ++ (loop.step event).2.history rest

/-- A loop after things happened. -/
def after (loop : Loop) (events : List Event) : Loop :=
  events.foldl (fun loop event => (loop.step event).2) loop

/-- **The chronicle of a loop**: it publishes what can be seen at its start, and takes what
comes. -/
def chronicle (player : Player) (period now : Nat) (events : List Event) : List Deed :=
  .publishes player.snapshot :: (start player period now).history events

/-- **Everything that one turn can be**: what happens, what is done, and what comes of it. -/
inductive Turns (loop : Loop) : Event → List Deed → Option Snapshot × Loop → Prop
  | ceased (event : Event) (ceased : loop.isRunning = false) : Turns loop event [] (none, loop)
  | cancelled (running : loop.isRunning = true) :
      Turns loop .cancel [.ends] (none, { loop with phase := .cancelled })
  | obeyed (now : Nat) (command : Player.Command) (running : loop.isRunning = true) :
      Turns loop (.command now command) [.obeys command] (loop.receive now command).publish
  | ticked {now : Nat} {outcome : TickOutcome} {next : Player} (running : loop.isRunning = true)
      (playing : loop.player.cursor.playing = true)
      (tick : loop.player.tick now = .ok (outcome, next)) :
      Turns loop (.tick now) [.ticks now]
        { loop with player := next, due := timerAfter now loop.due loop.period }.publish
  /-- The wait is longer than a duration can be. -/
  | brokeOff {now : Nat} {fault : DurationOverflow} (running : loop.isRunning = true)
      (playing : loop.player.cursor.playing = true)
      (tick : loop.player.tick now = .error fault) :
      Turns loop (.tick now) [.breaksOff now] (none, { loop with phase := .brokenOff })
  /-- Nobody listens to the timer of a playback that does not run. -/
  | unheard (now : Nat) (running : loop.isRunning = true)
      (stopped : loop.player.cursor.playing = false) : Turns loop (.tick now) [] (none, loop)

/-- **A turn is one of these**, and does what the chronicle says. -/
theorem turns_step (loop : Loop) (event : Event) :
    loop.Turns event (if loop.isRunning then loop.acts event else []) (loop.step event) := by
  cases running : loop.isRunning with
  | false =>
      have hstep : loop.step event = (none, loop) := by simp [step, running]
      rw [hstep]
      exact .ceased event running
  | true =>
      simp only [step, running, if_true]
      cases event with
      | cancel => exact .cancelled running
      | command now command => exact .obeyed now command running
      | tick now =>
          cases playing : loop.player.cursor.playing with
          | false => simpa [acts, playing] using Turns.unheard now running playing
          | true =>
              simp only [acts, playing, if_true, fire]
              cases tick : loop.player.tick now with
              | ok result => exact .ticked running playing tick
              | error fault => exact .brokeOff running playing tick

theorem exists_turns (loop : Loop) (event : Event) :
    ∃ acts, loop.Turns event acts (loop.step event) :=
  ⟨_, loop.turns_step event⟩

/-! ### The invariant -/

/-- What holds of a loop and its chronicle so far, before it publishes what can be seen. -/
structure Recorded (player : Player) (past : List Deed) (loop : Loop) : Prop where
  ordered : InOrder player past
  /-- The actions in it lead to the player of the loop. -/
  reached : player.performAll (past.filterMap Deed.action?) = .ok loop.player
  latest : latest? past = some loop.published
  ended : past.any Deed.isLast = !loop.isRunning
  /-- Without a command since the last snapshot, a tick has made what can be seen of it. -/
  follows : unseen past = [] → loop.player.snapshot = loop.published ∨
    loop.player.snapshot.Follows loop.published
  sound : loop.player.Sound
  paced : loop.player.Paced
  shown : loop.published.cursor.speed.isPositive = true

/-- **The invariant**: what can be seen has been published. -/
structure Tracks (player : Player) (past : List Deed) (loop : Loop) : Prop
    extends Recorded player past loop where
  published_eq : loop.player.snapshot = loop.published

/-- A deed that publishes nothing fits an unfinished chronicle, unless it is a tick while the
playback does not run. -/
theorem fits_of_silent (silent : deed.snapshot? = none) (ongoing : past.any Deed.isLast = false)
    (playing : deed.isTick = true → current.cursor.playing = true) : deed.Fits current past := by
  constructor
  · exact ongoing
  · exact playing
  all_goals
    intro snapshot hsnapshot
    rw [silent] at hsnapshot
    cases hsnapshot

theorem receive_eq (loop : Loop) (now : Nat) (command : Player.Command) :
    loop.receive now command =
      { loop with
        player := (loop.player.obey command).2
        due :=
          if !loop.player.cursor.playing && (loop.player.obey command).2.cursor.playing then now
          else loop.due } := by
  cases hstarts :
      !loop.player.cursor.playing && (loop.player.obey command).2.cursor.playing with
  | true => simp only [receive, hstarts, if_true]
  | false => simp only [receive, hstarts, Bool.false_eq_true, if_false]

theorem Recorded.ongoing (recorded : loop.Recorded player past) (running : loop.isRunning = true) :
    past.any Deed.isLast = false := by
  rw [recorded.ended, running]
  rfl

/-- Publishing what can be seen restores the invariant. -/
theorem Recorded.publish (recorded : loop.Recorded player past) (running : loop.isRunning = true) :
    loop.publish.2.Tracks player (past ++ loop.publish.1.toList.map .publishes) := by
  have ongoing := recorded.ongoing running
  unfold Loop.publish
  split
  · next hsame =>
      simp only [Option.toList_none, List.map_nil, List.append_nil]
      exact { recorded with published_eq := hsame }
  · next hdiffers =>
      have fits : (Deed.publishes loop.player.snapshot).Fits loop.player past := by
        constructor
        · exact ongoing
        · rintro ⟨⟩
        · rintro _ ⟨⟩
          exact ⟨rfl, recorded.sound.step_le⟩
        -- There is one snapshot that was published last, and the loop remembers it.
        all_goals
          rintro _ ⟨⟩ previous hprevious
          obtain rfl := Option.some_inj.1 (recorded.latest.symm.trans hprevious)
        · refine Bool.eq_false_iff.2 fun hsame => hdiffers ?_
          exact Snapshot.eq_of_same recorded.paced recorded.shown hsame
        · exact fun hunseen => (recorded.follows hunseen).resolve_left hdiffers
      exact
        { ordered := recorded.ordered.concat recorded.reached fits
          reached := by
            rw [List.filterMap_append]
            exact (List.append_nil _).symm ▸ recorded.reached
          latest := latest?_concat_publishes past _
          ended := by simpa [isRunning, Deed.isLast] using recorded.ended
          follows := fun _ => .inl rfl
          sound := recorded.sound
          paced := recorded.paced
          shown := recorded.paced
          published_eq := rfl }

namespace Tracks

/-- The loop does something to its player. -/
theorem act {action : Player.Action} (tracks : loop.Tracks player past)
    (running : loop.isRunning = true) (silent : deed.snapshot? = none)
    (acts : deed.action? = some action) (goesOn : deed.isLast = false)
    (playing : deed.isTick = true → loop.player.cursor.playing = true)
    (follows : unseen (past ++ [deed]) = [] → next.snapshot = loop.player.snapshot ∨
      next.snapshot.Follows loop.player.snapshot)
    (h : loop.player.perform action = .ok next) (due : Nat) :
    Recorded player (past ++ [deed]) { loop with player := next, due := due } := by
  have ongoing := tracks.ongoing running
  have hnext : loop.player.performAll [action] = .ok next :=
    Player.performAll_cons_eq_ok_iff.2 ⟨next, h, rfl⟩
  exact
    { ordered := tracks.ordered.concat tracks.reached (fits_of_silent silent ongoing playing)
      reached := by
        rw [List.filterMap_append]
        refine Player.performAll_append_eq_ok_iff.2 ⟨_, tracks.reached, ?_⟩
        simpa [acts] using hnext
      latest := (latest?_concat past silent).trans tracks.latest
      ended := by simpa [isRunning, goesOn] using tracks.ended
      follows := tracks.published_eq ▸ follows
      sound := tracks.sound.perform h
      paced := tracks.paced.perform h
      shown := tracks.shown }

theorem finish {phase : LoopPhase} (tracks : loop.Tracks player past)
    (running : loop.isRunning = true) (ceased : phase ≠ .running) (silent : deed.snapshot? = none)
    (acts : deed.action? = none) (last : deed.isLast = true)
    (playing : deed.isTick = true → loop.player.cursor.playing = true) :
    Tracks player (past ++ [deed]) { loop with phase := phase } := by
  have ongoing := tracks.ongoing running
  exact
    { ordered := tracks.ordered.concat tracks.reached (fits_of_silent silent ongoing playing)
      reached := by simpa [acts] using tracks.reached
      latest := (latest?_concat past silent).trans tracks.latest
      ended := by simp [last, isRunning, ceased]
      follows := fun _ => .inl tracks.published_eq
      sound := tracks.sound
      paced := tracks.paced
      shown := tracks.shown
      published_eq := tracks.published_eq }

/-- **One turn keeps the invariant.** -/
theorem turn (tracks : loop.Tracks player past) (event : Event) :
    (loop.step event).2.Tracks player (past ++ loop.deeds event) := by
  unfold deeds
  generalize hacts : (if loop.isRunning then loop.acts event else []) = acts
  have hturn := loop.turns_step event
  rw [hacts] at hturn
  generalize loop.step event = result at hturn ⊢
  cases hturn with
  | ceased | unheard => simpa using tracks
  | cancelled running =>
      simpa using tracks.finish running (by decide) rfl rfl rfl (by rintro ⟨⟩)
  | brokeOff running playing =>
      simpa using tracks.finish running (by decide) rfl rfl rfl fun _ => playing
  | obeyed now command running =>
      -- After a command, the next snapshot need not follow from the last one.
      rw [← List.append_assoc]
      refine Recorded.publish ?_ ?_
      · have hunseen : unseen (past ++ [.obeys command]) ≠ [] := by
          rw [unseen_concat_obeys]
          exact List.append_ne_nil_of_right_ne_nil _ (List.cons_ne_nil _ _)
        rw [receive_eq]
        exact tracks.act running rfl rfl rfl (by rintro ⟨⟩) (fun h => absurd h hunseen) rfl _
      · rw [receive_eq]
        exact running
  | ticked running playing tick =>
      rw [← List.append_assoc]
      have hfollows := Snapshot.follows_of_tick tracks.sound tick
      have hperform := Player.perform_tick_eq_ok_iff.2 ⟨_, tick⟩
      exact (tracks.act running rfl rfl rfl (fun _ => playing) (fun _ => hfollows) hperform
        _).publish running

/-- **Whatever happens keeps the invariant.** -/
theorem history (tracks : loop.Tracks player past) (events : List Event) :
    (loop.after events).Tracks player (past ++ loop.history events) := by
  induction events generalizing loop past with
  | nil =>
      rw [Loop.history, List.append_nil]
      exact tracks
  | cons event rest ih =>
      rw [Loop.history, ← List.append_assoc]
      exact ih (tracks.turn event)

end Tracks

/-- A loop begins with the invariant, if its player begins with its own. -/
theorem tracks_start (sound : player.Sound) (paced : player.Paced) (period now : Nat) :
    (start player period now).Tracks player [.publishes player.snapshot] := by
  have fits : (Deed.publishes player.snapshot).Fits player [] := by
    constructor
    · rfl
    · rintro ⟨⟩
    · rintro _ ⟨⟩
      exact ⟨rfl, sound.step_le⟩
    all_goals rintro _ ⟨⟩ _ ⟨⟩
  exact
    { ordered := (inOrder_nil player).concat rfl fits
      reached := rfl
      latest := rfl
      ended := rfl
      follows := fun _ => .inl rfl
      sound := sound
      paced := paced
      shown := paced
      published_eq := rfl }

/-! ### The end of a loop -/

theorem isRunning_step_of_ceased (ceased : loop.isRunning = false) (event : Event) :
    (loop.step event).2.isRunning = false := by
  simp [step, ceased]

theorem isRunning_after_of_ceased (ceased : loop.isRunning = false) (events : List Event) :
    (loop.after events).isRunning = false := by
  induction events generalizing loop with
  | nil => exact ceased
  | cons event rest ih => exact ih (isRunning_step_of_ceased ceased event)

theorem isRunning_step_cancel (loop : Loop) : (loop.step .cancel).2.isRunning = false := by
  cases running : loop.isRunning with
  | false => exact isRunning_step_of_ceased running .cancel
  | true =>
      rw [step, if_pos running]
      rfl

/-- A loop that is cancelled is over, and stays so. -/
theorem isRunning_after_of_cancel (h : Event.cancel ∈ events) :
    (loop.after events).isRunning = false := by
  induction events generalizing loop with
  | nil => cases h
  | cons event rest ih =>
      rcases List.mem_cons.1 h with rfl | hrest
      · exact isRunning_after_of_ceased loop.isRunning_step_cancel rest
      · exact ih hrest

theorem history_of_ceased (ceased : loop.isRunning = false) (events : List Event) :
    loop.history events = [] := by
  induction events generalizing loop with
  | nil => rfl
  | cons event rest ih =>
      have hdeeds : loop.deeds event = [] := by simp [deeds, step, ceased]
      rw [history, hdeeds, ih (isRunning_step_of_ceased ceased event)]
      rfl

/-! ### The commands that are carried out -/

def Event.command? : Event → Option Player.Command
  | .command _ sent => some sent
  | _ => none

theorem commands_acts (loop : Loop) (event : Event) :
    (loop.acts event).filterMap Deed.command? = event.command?.toList := by
  cases event with
  | command | cancel => rfl
  | tick now =>
      simp only [acts]
      split
      · split <;> rfl
      · rfl

/-- A turn of a running loop carries out the command that arrives, and no other. -/
theorem commands_deeds (running : loop.isRunning = true) (event : Event) :
    (loop.deeds event).filterMap Deed.command? = event.command?.toList := by
  have hpublished : ∀ published : Option Snapshot,
      (published.toList.map Deed.publishes).filterMap Deed.command? = [] := by
    rintro (_ | _) <;> rfl
  rw [deeds, if_pos running, List.filterMap_append, commands_acts, hpublished, List.append_nil]

/-- **Commands are carried out in the order in which they arrive**, all of them while the loop
runs. -/
theorem commands_history (loop : Loop) (events : List Event) :
    (loop.history events).filterMap Deed.command? <+: events.filterMap Event.command? ∧
      ((loop.after events).isRunning = true →
        (loop.history events).filterMap Deed.command? = events.filterMap Event.command?) := by
  induction events generalizing loop with
  | nil => exact ⟨List.prefix_rfl, fun _ => rfl⟩
  | cons event rest ih =>
      cases running : loop.isRunning with
      | false =>
          -- A loop that is over does nothing any more.
          rw [history_of_ceased running]
          refine ⟨List.nil_prefix, fun hafter => ?_⟩
          rw [isRunning_after_of_ceased running] at hafter
          cases hafter
      | true =>
          have hsent : (event :: rest).filterMap Event.command? =
              event.command?.toList ++ rest.filterMap Event.command? := by
            cases hcommand : event.command? <;> simp [hcommand]
          obtain ⟨hfirst, hall⟩ := ih (loop.step event).2
          rw [history, List.filterMap_append, commands_deeds running, hsent]
          exact ⟨(List.prefix_append_right_inj _).2 hfirst,
            fun hafter => congrArg _ (hall hafter)⟩

/-! ### The chronicle -/

/-- What can be said of a loop that began with a player and took what came. -/
structure Chronicled (player : Player) (period now : Nat) (events : List Event) : Prop where
  /-- Every deed fits what was done before it. -/
  inOrder : InOrder player (chronicle player period now events)
  /-- The chronicle tells what became of the player. -/
  reached : player.performAll ((chronicle player period now events).filterMap Deed.action?) =
    .ok ((start player period now).after events).player
  /-- What can be seen of it was published last. -/
  latest : latest? (chronicle player period now events) =
    some ((start player period now).after events).player.snapshot
  /-- The timer of a playback that does not run is not listened to. -/
  unheard : ∀ before, before <+: events → ∀ time,
    ((start player period now).after before).player.cursor.playing = false →
      ((start player period now).after before).step (.tick time) =
        (none, (start player period now).after before)
  /-- It has an end exactly when the loop is over. -/
  ended : (chronicle player period now events).any Deed.isLast =
    !((start player period now).after events).isRunning
  cancelled : Event.cancel ∈ events → ((start player period now).after events).isRunning = false
  /-- The commands that were carried out are the ones that came first. -/
  commands_prefix : (chronicle player period now events).filterMap Deed.command? <+:
    events.filterMap Event.command?
  /-- While the loop runs, they are all of them. -/
  commands_eq : ((start player period now).after events).isRunning = true →
    (chronicle player period now events).filterMap Deed.command? = events.filterMap Event.command?

/-- **Every chronicle is in order**, whatever player the loop begins with and however commands and
ticks interleave. -/
theorem chronicled (reachable : player.Reachable) (period now : Nat) (events : List Event) :
    Chronicled player period now events := by
  have tracks := (tracks_start reachable.sound reachable.paced period now).history events
  obtain ⟨hfirst, hall⟩ := commands_history (start player period now) events
  exact
    { inOrder := tracks.ordered
      reached := tracks.reached
      latest := tracks.latest.trans (congrArg some tracks.published_eq.symm)
      unheard := fun _ _ _ stopped => by simp [step, stopped]
      ended := tracks.ended
      cancelled := isRunning_after_of_cancel
      commands_prefix := hfirst
      commands_eq := hall }

/-- Three lines are played until the playback is started again after its end; the loop is cancelled
before the last command. -/
def playedTwice : List Event :=
  [.command 0 .play, .tick 0, .tick 400000000, .command 400000000 .seekEnd, .tick 400000000,
    .command 500000000 .stepBack, .command 500000000 .play, .tick 500000000, .tick 900000000,
    .tick 900000000, .cancel, .command 900000000 .stepBack]

/-- This loop publishes a stop without a step, and a step with a stop. -/
theorem chronicled_playedTwice :
    ((chronicle (.ofLog Player.threeLines .standard) 16000000 0 playedTwice).filterMap
        Deed.snapshot?).map (fun snapshot => (snapshot.cursor.step, snapshot.cursor.playing)) =
      [(0, false), (0, true), (1, true), (2, true), (2, false), (1, false), (1, true), (2, false)] ∧
    Chronicled (.ofLog Player.threeLines .standard) 16000000 0 playedTwice :=
  ⟨by decide +kernel, chronicled ⟨_, _, [], rfl⟩ _ _ _⟩

end Loop

end TracePlayer
