/-
**A state only grows.**

Nothing that a state holds is ever taken back.  Later events append to the output, begin frames and
bind names, but the output that was printed stays at the front, a frame keeps what its first event
gave it, a name keeps its place among the locals, and a frame that was closed is closed for good:
its later events bind its variables, but not even another return touches what it returned.

Main definitions:

* `Frame.Contained`, `State.Contained`: an earlier frame, and an earlier state, is part of a later
  one.

Main results:

* `Frame.contained_record`, `State.contained_apply`: one event keeps a frame, and a state, inside
  what it makes of it;
* `State.contained_ofPrefix`: so do any number of events;
* `State.contained_atStep`: **the state of a step is part of the state of every later one**.
-/
import TracePlayer.Program.State
import TracePlayer.Proofs.Bindings

set_option autoImplicit false

namespace TracePlayer

/-! ### Containment -/

/-- **An earlier form of a frame is part of a later one.** -/
structure Frame.Contained (early late : Frame) : Prop where
  /-- What the first event of the frame gave it stays. -/
  id : late.id = early.id
  function : late.function = early.function
  depth : late.depth = early.depth
  parent : late.parent = early.parent
  createdAt : late.createdAt = early.createdAt
  /-- The names of the locals come first among the later ones, in the same order. -/
  names : early.locals.names <+: late.locals.names
  /-- A frame that was closed stays closed, and as it was closed. -/
  closed : early.isClosed = true →
    late.isClosed = true ∧ late.closedAt = early.closedAt ∧ late.returnValue = early.returnValue

/-- **An earlier state is part of a later one.** -/
structure State.Contained (early late : State) : Prop where
  /-- The earlier output is at the front of the later one. -/
  stdout : ∃ printed, late.stdout = early.stdout ++ printed
  /-- Every frame is still there. -/
  frame : ∀ id frame, early.frame? id = some frame →
    ∃ later, late.frame? id = some later ∧ frame.Contained later

/-! ### Frames -/

namespace Frame

theorem Contained.refl (frame : Frame) : frame.Contained frame where
  id := rfl
  function := rfl
  depth := rfl
  parent := rfl
  createdAt := rfl
  names := List.prefix_rfl
  closed h := ⟨h, rfl, rfl⟩

theorem Contained.trans {a b c : Frame} (hab : a.Contained b) (hbc : b.Contained c) :
    a.Contained c where
  id := hbc.id.trans hab.id
  function := hbc.function.trans hab.function
  depth := hbc.depth.trans hab.depth
  parent := hbc.parent.trans hab.parent
  createdAt := hbc.createdAt.trans hab.createdAt
  names := hab.names.trans hbc.names
  closed h := by
    obtain ⟨hclosed, hat, hvalue⟩ := hab.closed h
    obtain ⟨hclosed', hat', hvalue'⟩ := hbc.closed hclosed
    exact ⟨hclosed', hat'.trans hat, hvalue'.trans hvalue⟩

theorem contained_assign (frame : Frame) (event : Event) : frame.Contained (frame.assign event) :=
  { Contained.refl frame with names := Bindings.names_prefix_overlay _ _ }

theorem contained_close (frame : Frame) (step : Nat) (value : Option Json) :
    frame.Contained (frame.close step value) := by
  cases hclosing : frame.closing with
  | some closing =>
      -- The frame was closed before: a second return finds nothing to do.
      have hsame : frame.close step value = frame := by rw [close, hclosing]
      rw [hsame]
      exact .refl frame
  | none =>
      have hopen : ¬ frame.isClosed = true := by simp [isClosed, hclosing]
      have hclosed : frame.close step value = { frame with closing := some ⟨step, value⟩ } := by
        rw [close, hclosing]
      rw [hclosed]
      exact { Contained.refl frame with closed := fun h => absurd h hopen }

/-- An event keeps a frame inside what it makes of it. -/
theorem contained_record (frame : Frame) (step : Nat) (event : Event) :
    frame.Contained (frame.record step event) := by
  have hassign := frame.contained_assign event
  unfold record
  split
  · exact hassign.trans ((frame.assign event).contained_close step event.returnValue)
  · exact hassign

end Frame

/-! ### States -/

namespace State

theorem Contained.refl (state : State) : state.Contained state where
  stdout := ⟨"", String.append_empty.symm⟩
  frame _ frame h := ⟨frame, h, .refl frame⟩

theorem Contained.trans {a b c : State} (hab : a.Contained b) (hbc : b.Contained c) :
    a.Contained c where
  stdout := by
    obtain ⟨first, hfirst⟩ := hab.stdout
    obtain ⟨second, hsecond⟩ := hbc.stdout
    exact ⟨first ++ second, by rw [hsecond, hfirst, String.append_assoc]⟩
  frame id frame h := by
    obtain ⟨middle, hmiddle, hframe⟩ := hab.frame id frame h
    obtain ⟨last, hlast, hmiddle'⟩ := hbc.frame id middle hmiddle
    exact ⟨last, hlast, hframe.trans hmiddle'⟩

/-- An event keeps a state inside what it makes of it. -/
theorem contained_apply (state : State) (event : Event) : state.Contained (state.apply event) where
  stdout := ⟨event.fragment, rfl⟩
  frame id frame h := by
    by_cases hid : id = event.frame
    · subst hid
      have hown : state.frameOf event = frame := by
        rw [frameOf]
        exact congrArg (Option.getD · _) h
      refine ⟨frame.record state.applied event, ?_, frame.contained_record _ event⟩
      rw [frame?_apply, if_pos rfl, hown]
    · exact ⟨frame, by rw [frame?_apply, if_neg hid, h], .refl frame⟩

theorem contained_applyAll (state : State) (events : List Event) :
    state.Contained (state.applyAll events) := by
  induction events generalizing state with
  | nil => exact .refl state
  | cons event rest ih => exact (state.contained_apply event).trans (ih _)

/-- The state after some events is part of the state after more of them. -/
theorem contained_ofPrefix (events : List Event) {few many : Nat} (h : few ≤ many) :
    (ofPrefix events few).Contained (ofPrefix events many) := by
  have hfew : events.take few = (events.take many).take few := by
    rw [List.take_take, Nat.min_eq_left h]
  have hmany : ofPrefix events many
      = (ofPrefix events few).applyAll ((events.take many).drop few) := by
    rw [ofPrefix, ofPrefix, ← applyAll_append, hfew, List.take_append_drop]
  rw [hmany]
  exact contained_applyAll _ _

/-- A later step includes no fewer events. -/
theorem eventsThrough_mono (length : Nat) {a b : Int} (h : a ≤ b) :
    eventsThrough length a ≤ eventsThrough length b := by
  unfold eventsThrough
  split
  · exact Nat.zero_le _
  · next ha =>
      have hb : ¬ b < 0 := by omega
      have hstep : a.toNat + 1 ≤ b.toNat + 1 := by omega
      rw [if_neg hb]
      exact Nat.le_min.2 ⟨Nat.le_trans (Nat.min_le_left _ _) hstep, Nat.min_le_right _ _⟩

/-- **The state of a step is part of the state of every later one**, for any two steps, before the
first and after the last one included. -/
theorem contained_atStep (events : List Event) {a b : Int} (h : a ≤ b) :
    (atStep events a).Contained (atStep events b) :=
  contained_ofPrefix events (eventsThrough_mono events.length h)

/-- A frame that returns twice, with another value the second time, and binds its argument anew in
between. -/
def returnsTwice : List Event :=
  [{ Event.plain 0 .call 1 with args := some (.ofPairs [("n", .ofNat 1), ("m", .null)]) },
    { Event.plain 1 .ret 1 with returnValue := some .null },
    { Event.plain 2 .line 1 with
      assignments := some (.ofPairs [("k", .null), ("n", .ofNat 2)]), stdout := some "late" },
    { Event.plain 3 .ret 1 with returnValue := some (.ofNat 5) }]

/-- The state of the first return is part of the state after the second one, which has another
value of the argument and the value returned first. -/
theorem contained_atStep_returnsTwice :
    (1 : Int) ≤ 9 ∧
      ((atStep returnsTwice 9).frame? 1).map (fun frame => (frame.locals.names, frame.closedAt)) =
        some (["n", "m", "k"], some 1) ∧
      (atStep returnsTwice 1).Contained (atStep returnsTwice 9) :=
  ⟨by decide, by decide +kernel, contained_atStep returnsTwice (by decide)⟩

end State

end TracePlayer
