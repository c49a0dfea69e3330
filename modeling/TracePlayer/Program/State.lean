/-
**The state of a program.**

The state after a prefix of the log is a fold over its events.  The fold from nothing is the
meaning of every other way to reach a state.

Main definitions:

* `State`: the output so far, the frames, the last event and the number of events;
* `State.apply`: the state after one more event;
* `State.ofPrefix`, `State.atStep`, `State.atStep?`: the state after a number of events, after a
  step and after an optional step.

Main results:

* `State.applyAll_append`: a fold over a log is a fold over its first part and then over the rest;
* `State.frame?_apply`: an event changes the frame it belongs to and no other.
-/
import TracePlayer.Program.Frame
import TracePlayer.Trace.Codec

set_option autoImplicit false

namespace TracePlayer

/-- The state of a program after some events. -/
@[ext] structure State where
  /-- The output so far. -/
  stdout : String
  /-- Every frame mentioned so far. -/
  frames : FrameTable
  /-- The last event. -/
  lastEvent : Option Event
  /-- The number of events. -/
  applied : Nat

namespace State

/-- The state before the first event. -/
def initial : State := ⟨"", .empty, none, 0⟩

instance : Inhabited State := ⟨initial⟩

/-! ### The fold -/

/-- The frame that an event belongs to, begun by the event itself if it is new. -/
def frameOf (state : State) (event : Event) : Frame :=
  (state.frames.find? event.frame).getD (Frame.ofEvent state.applied event)

/-- The state after one more event. -/
def apply (state : State) (event : Event) : State where
  stdout := state.stdout ++ event.fragment
  frames := state.frames.put ((state.frameOf event).record state.applied event)
  lastEvent := some event
  applied := state.applied + 1

/-- The state after each of the events, in order. -/
def applyAll (state : State) (events : List Event) : State := events.foldl apply state

/-- The state after the first `count` events, or after all of them if there are fewer. -/
def ofPrefix (events : List Event) (count : Nat) : State := initial.applyAll (events.take count)

/-- The number of events up to and including a step, in a log of the given length; a step before
the first one includes none, a step after the last one all of them. -/
def eventsThrough (length : Nat) (step : Int) : Nat :=
  if step < 0 then 0 else Nat.min (step.toNat + 1) length

/-- The state after a step. -/
def atStep (events : List Event) (step : Int) : State :=
  ofPrefix events (eventsThrough events.length step)

/-- The state after a step, the initial state if there is none. -/
def atStep? (events : List Event) : Option Int → State
  | none => initial
  | some step => atStep events step

@[simp] theorem applyAll_nil (state : State) : state.applyAll [] = state := rfl

@[simp] theorem applyAll_cons (state : State) (event : Event) (events : List Event) :
    state.applyAll (event :: events) = (state.apply event).applyAll events := rfl

theorem applyAll_append (state : State) (first second : List Event) :
    state.applyAll (first ++ second) = (state.applyAll first).applyAll second := by
  simp [applyAll, List.foldl_append]

@[simp] theorem applied_apply (state : State) (event : Event) :
    (state.apply event).applied = state.applied + 1 := rfl

theorem applied_applyAll (state : State) (events : List Event) :
    (state.applyAll events).applied = state.applied + events.length := by
  induction events generalizing state with
  | nil => simp
  | cons event rest ih => simp [ih, Nat.add_comm, Nat.add_left_comm]

/-! ### Reading a state -/

/-- The step of the last event. -/
def step? (state : State) : Option Nat :=
  if state.applied = 0 then none else some (state.applied - 1)

/-- Whether no event has been applied. -/
def isInitial (state : State) : Bool := state.applied == 0

/-- The frame of a given number. -/
def frame? (state : State) (id : FrameId) : Option Frame := state.frames.find? id

/-- The frame that the last event belongs to. -/
def currentFrame? (state : State) : Option Frame :=
  state.lastEvent.bind fun event => state.frame? event.frame

/-- The frames that have not returned, in ascending order. -/
def openFrames (state : State) : List Frame :=
  state.frames.toList.filter fun frame => !frame.isClosed

/-- The number of frames that have returned. -/
def closedCount (state : State) : Nat :=
  (state.frames.toList.filter Frame.isClosed).length

/-- The source line of the last event. -/
def line? (state : State) : Option UInt32 := state.lastEvent.map Event.line

/-! ### What one event changes -/

@[simp] theorem id_frameOf (state : State) (event : Event) :
    (state.frameOf event).id = event.frame := by
  unfold frameOf
  cases h : state.frames.find? event.frame with
  | none => rfl
  | some frame => simpa using List.find?_some h

/-- An event changes the frame it belongs to and no other. -/
theorem frame?_apply (state : State) (event : Event) (id : FrameId) :
    (state.apply event).frame? id
      = if id = event.frame then some ((state.frameOf event).record state.applied event)
        else state.frame? id := by
  rw [frame?, apply, FrameTable.find?_put, Frame.id_record, id_frameOf]
  rfl

end State

/-! ### States as JSON -/

/-- A frame as a JSON object. -/
def Frame.encode (frame : Frame) : Json :=
  .obj [("frame_id", Event.wordJson frame.id), ("function_name", .str frame.function),
    ("depth", .ofNat frame.depth.toNat),
    ("parent_frame_id", .ofOption Event.wordJson frame.parent),
    ("locals", Event.bindingsJson frame.locals), ("closed", .bool frame.isClosed),
    ("return_value", .ofOption (fun value => value) frame.returnValue),
    ("created_at", .ofNat frame.createdAt), ("closed_at", .ofOption Json.ofNat frame.closedAt)]

/-- A state as a JSON object; the frames stand under their numbers. -/
def State.encode (state : State) : Json :=
  .obj [("stdout", .str state.stdout),
    ("frames", .obj (state.frames.toList.map fun frame =>
      (toString frame.id.toNat, frame.encode))),
    ("last_event", .ofOption Event.encode state.lastEvent),
    ("events_applied", .ofNat state.applied)]

end TracePlayer
