/-
**A navigator is faithful to its log.**

Whatever a navigator remembers, the state at hand, the checkpoints and the last change, is what a
fold over its log from nothing gives.  Every move restores this, whichever way it goes and wherever
it begins.

Main definitions:

* `Log.Reaches`: a state is the fold over a prefix of the log;
* `Log.changeBefore`: the change made by the last one of a number of events;
* `Navigator.Faithful`: **the invariant**, all that is remembered is what the log gives.

Main results:

* `Navigator.Faithful.forward`, `Navigator.Faithful.rewind`, `Navigator.Faithful.advance`: the
  single moves keep the invariant;
* `Navigator.Faithful.moveTo`, `Navigator.Faithful.current_moveTo`: a move keeps the invariant and
  ends at the state that was asked for;
* `Navigator.Faithful.computeChange`, `Navigator.Faithful.fst_computeChange`: so does the
  computation of a change, which gives the full comparison of two states.
-/
import TracePlayer.Proofs.Program.LastEvent
import TracePlayer.Timeline.Navigator

set_option autoImplicit false

namespace TracePlayer

/-! ### Prefixes of a log -/

theorem State.ofPrefix_succ {events : List Event} {count : Nat} {event : Event}
    (h : events[count]? = some event) :
    ofPrefix events (count + 1) = (ofPrefix events count).apply event := by
  rw [ofPrefix, List.take_add_one, h, applyAll_append]
  rfl

namespace Log

/-- The state is the fold over as many events of the log as it counts. -/
def Reaches (log : Log) (state : State) : Prop :=
  state = State.ofPrefix log.events state.applied

/-- The change made by the last one of the first `count` events. -/
def changeBefore (log : Log) (count : Nat) : Change :=
  Change.between (State.ofPrefix log.events (count - 1)) (State.ofPrefix log.events count)

variable {log : Log} {state : State}

theorem reaches_initial (log : Log) : log.Reaches .initial := rfl

theorem Reaches.apply (h : log.Reaches state) {event : Event}
    (hevent : log.events[state.applied]? = some event) : log.Reaches (state.apply event) := by
  rw [Reaches, State.applied_apply, State.ofPrefix_succ hevent, ← h]

end Log

/-! ### Checkpoints -/

namespace Checkpoints

theorem mem_insertState_iff {state other : State} {states : List State} :
    other ∈ insertState state states ↔ other = state ∨ other ∈ states := by
  induction states with
  | nil => simp [insertState]
  | cons head rest ih =>
      unfold insertState
      split
      · simp
      · simp only [List.mem_cons, ih]
        exact or_left_comm

theorem mem_record {checkpoints : Checkpoints} {state other : State}
    (h : other ∈ (checkpoints.record state).states) :
    other = state ∨ other ∈ checkpoints.states := by
  unfold record at h
  split at h
  · exact mem_insertState_iff.1 h
  · exact .inr h

theorem nearest?_eq_some {checkpoints : Checkpoints} {applied : Nat} {state : State}
    (h : checkpoints.nearest? applied = some state) :
    state ∈ checkpoints.states ∧ state.applied ≤ applied := by
  simpa using List.mem_filter.1 (List.mem_of_getLast? h)

end Checkpoints

namespace Navigator

/-! ### The invariant -/

/-- **All that a navigator remembers is what its log gives.** -/
structure Faithful (nav : Navigator) : Prop where
  /-- The state at hand is the fold over a prefix. -/
  current : nav.log.Reaches nav.current
  /-- So is every checkpoint. -/
  checkpoints : ∀ state ∈ nav.checkpoints.states, nav.log.Reaches state
  /-- The last change is the one made by its event. -/
  lastChange : ∀ count change, nav.lastChange = some (count, change) →
    change = nav.log.changeBefore count

theorem faithful_ofLog (log : Log) (interval : Nat) : (ofLog log interval).Faithful where
  current := log.reaches_initial
  checkpoints := by simp [ofLog, Checkpoints.empty]
  lastChange := by simp [ofLog]

theorem faithful_reconfigure (nav : Navigator) (interval : Nat) :
    (nav.reconfigure interval).Faithful :=
  { faithful_ofLog nav.log interval with }

/-! ### What a move leaves alone -/

section Keeps

variable {α : Type} (part : Navigator → α)

theorem advance_keeps (hforward : ∀ nav event, part (nav.forward event) = part nav)
    (nav : Navigator) (target : Nat) : part (nav.advance target) = part nav := by
  unfold advance
  induction (nav.log.events.take target).drop nav.current.applied generalizing nav with
  | nil => rfl
  | cons event rest ih => rw [List.foldl_cons, ih, hforward]

/-- A part that the single moves leave alone is left alone by every move. -/
theorem moveTo_keeps (hforward : ∀ nav event, part (nav.forward event) = part nav)
    (hrewind : ∀ nav target, part (nav.rewind target) = part nav)
    (hstats : ∀ nav stats, part { nav with stats := stats } = part nav)
    (nav : Navigator) (target : Nat) : part (nav.moveTo target) = part nav := by
  unfold moveTo
  split
  · exact hstats nav _
  · split
    · rw [advance_keeps part hforward, hrewind]
    · exact advance_keeps part hforward nav target

end Keeps

@[simp] theorem log_forward (nav : Navigator) (event : Event) : (nav.forward event).log = nav.log :=
  rfl

@[simp] theorem log_rewind (nav : Navigator) (target : Nat) :
    (nav.rewind target).log = nav.log := by
  unfold rewind
  split <;> rfl

@[simp] theorem log_moveTo (nav : Navigator) (target : Nat) : (nav.moveTo target).log = nav.log :=
  moveTo_keeps log log_forward log_rewind (fun _ _ => rfl) nav target

/-- A place of the log is still one after a move. -/
theorem le_length_moveTo {nav : Navigator} {target : Nat} (h : target ≤ nav.log.length)
    (before : Nat) : target ≤ (nav.moveTo before).log.length := by
  rwa [log_moveTo]

@[simp] theorem log_computeChange (nav : Navigator) (index : Nat) (event : Event) :
    (nav.computeChange index event).2.log = nav.log := by
  simp [computeChange]

@[simp] theorem interval_forward (nav : Navigator) (event : Event) :
    (nav.forward event).interval = nav.interval := by
  simp only [forward, interval, Checkpoints.record]
  split <;> rfl

@[simp] theorem interval_rewind (nav : Navigator) (target : Nat) :
    (nav.rewind target).interval = nav.interval := by
  unfold rewind
  split <;> rfl

@[simp] theorem interval_moveTo (nav : Navigator) (target : Nat) :
    (nav.moveTo target).interval = nav.interval :=
  moveTo_keeps interval interval_forward interval_rewind (fun _ _ => rfl) nav target

@[simp] theorem interval_stateAt (nav : Navigator) (step : Int) :
    (nav.stateAt step).2.interval = nav.interval :=
  nav.interval_moveTo _

@[simp] theorem interval_computeChange (nav : Navigator) (index : Nat) (event : Event) :
    (nav.computeChange index event).2.interval = nav.interval :=
  ((nav.moveTo index).interval_moveTo _).trans (nav.interval_moveTo index)

theorem lastChange_rewind (nav : Navigator) (target : Nat) :
    (nav.rewind target).lastChange = nav.lastChange := by
  unfold rewind
  split <;> rfl

theorem lastChange_moveTo (nav : Navigator) (target : Nat) :
    (nav.moveTo target).lastChange = nav.lastChange :=
  moveTo_keeps lastChange (fun _ _ => rfl) lastChange_rewind (fun _ _ => rfl) nav target

/-! ### Moves -/

section Moves

variable {nav : Navigator}

theorem Faithful.forward (h : nav.Faithful) {event : Event}
    (hevent : nav.log.events[nav.current.applied]? = some event) :
    (nav.forward event).Faithful where
  current := h.current.apply hevent
  checkpoints state hstate := by
    rcases Checkpoints.mem_record hstate with rfl | hstate
    · exact h.current.apply hevent
    · exact h.checkpoints state hstate
  lastChange := h.lastChange

/-- A rewind goes to a state that is not behind the place asked for. -/
theorem applied_rewind_le (nav : Navigator) (target : Nat) :
    (nav.rewind target).current.applied ≤ target := by
  unfold rewind
  split
  · next state hstate => exact (Checkpoints.nearest?_eq_some hstate).2
  · exact Nat.zero_le _

theorem Faithful.rewind (h : nav.Faithful) (target : Nat) : (nav.rewind target).Faithful := by
  unfold Navigator.rewind
  split
  · next state hstate =>
      exact { h with current := h.checkpoints state (Checkpoints.nearest?_eq_some hstate).1 }
  · exact { h with current := nav.log.reaches_initial }

/-- Applying events that come next in the log keeps the invariant and counts each of them. -/
theorem Faithful.foldl_forward (h : nav.Faithful) {events : List Event}
    (hevents : events <+: nav.log.events.drop nav.current.applied) :
    (events.foldl Navigator.forward nav).Faithful ∧
      (events.foldl Navigator.forward nav).current.applied
        = nav.current.applied + events.length := by
  induction events generalizing nav with
  | nil => exact ⟨h, rfl⟩
  | cons event rest ih =>
      obtain ⟨suffix, hsuffix⟩ := hevents
      have hevent : nav.log.events[nav.current.applied]? = some event := by
        rw [← List.head?_drop, ← hsuffix]
        rfl
      have hrest : rest <+: nav.log.events.drop (nav.current.applied + 1) := by
        refine ⟨suffix, ?_⟩
        rw [← List.tail_drop, ← hsuffix]
        rfl
      obtain ⟨hfaithful, happlied⟩ := ih (h.forward hevent) hrest
      refine ⟨hfaithful, happlied.trans ?_⟩
      simp [Navigator.forward, Nat.add_comm, Nat.add_left_comm]

theorem Faithful.advance (h : nav.Faithful) {target : Nat} (hfrom : nav.current.applied ≤ target)
    (hto : target ≤ nav.log.length) :
    (nav.advance target).Faithful ∧ (nav.advance target).current.applied = target := by
  have hevents : (nav.log.events.take target).drop nav.current.applied
      <+: nav.log.events.drop nav.current.applied := by
    rw [List.drop_take]
    exact List.take_prefix _ _
  obtain ⟨hfaithful, happlied⟩ := h.foldl_forward hevents
  refine ⟨hfaithful, happlied.trans ?_⟩
  rw [List.length_drop, List.length_take]
  unfold Log.length at hto
  omega

/-- A move keeps the invariant and applies as many events as were asked for. -/
theorem Faithful.moveTo_applied (h : nav.Faithful) {target : Nat} (hto : target ≤ nav.log.length) :
    (nav.moveTo target).Faithful ∧ (nav.moveTo target).current.applied = target := by
  unfold Navigator.moveTo
  split
  · next e => exact ⟨{ h with }, e.symm⟩
  · split
    · -- A rewind ends at or before the target, wherever the checkpoints are, and goes on there.
      refine (h.rewind target).advance (applied_rewind_le nav target) ?_
      rwa [log_rewind]
    · exact h.advance (by omega) hto

theorem Faithful.moveTo (h : nav.Faithful) {target : Nat} (hto : target ≤ nav.log.length) :
    (nav.moveTo target).Faithful :=
  (h.moveTo_applied hto).1

/-- **A move ends at the state that was asked for**, the fold over the prefix from nothing. -/
theorem Faithful.current_moveTo (h : nav.Faithful) {target : Nat} (hto : target ≤ nav.log.length) :
    (nav.moveTo target).current = State.ofPrefix nav.log.events target := by
  obtain ⟨hfaithful, happlied⟩ := h.moveTo_applied hto
  have hcurrent := hfaithful.current
  rwa [Log.Reaches, happlied, log_moveTo] at hcurrent

/-! ### Changes -/

/-- The change told from the frame of one event is the full comparison of two prefixes. -/
theorem Faithful.fst_computeChange (h : nav.Faithful) {index : Nat} {event : Event}
    (hevent : nav.log.event? index = some event) :
    (nav.computeChange index event).1 = nav.log.changeBefore (index + 1) := by
  have hindex : index < nav.log.length := (List.getElem?_eq_some_iff.1 hevent).1
  have hbefore := h.current_moveTo (Nat.le_of_lt hindex)
  have hafter := (h.moveTo (Nat.le_of_lt hindex)).current_moveTo (le_length_moveTo hindex index)
  rw [log_moveTo] at hafter
  -- Both states are folds from nothing, so the later one is the earlier one and one more event.
  rw [computeChange, hbefore, hafter, Log.changeBefore, State.ofPrefix_succ hevent]
  exact Change.ofLastEvent_apply _ event

theorem Faithful.computeChange (h : nav.Faithful) {index : Nat} {event : Event}
    (hevent : nav.log.event? index = some event) :
    (nav.computeChange index event).2.Faithful := by
  have hindex : index < nav.log.length := (List.getElem?_eq_some_iff.1 hevent).1
  have hafter := (h.moveTo (Nat.le_of_lt hindex)).moveTo (le_length_moveTo hindex index)
  refine { hafter with lastChange := ?_ }
  rintro count change ⟨⟩
  rw [log_computeChange]
  exact h.fst_computeChange hevent

end Moves

end Navigator

end TracePlayer
