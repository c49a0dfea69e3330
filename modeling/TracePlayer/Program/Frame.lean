/-
**Frames of a program.**

Main definitions:

* `Frame`: one activation of a function, from the first event that mentions it;
* `Frame.ofEvent`, `Frame.record`: how a frame begins and what one of its events does to it;
* `FrameTable`: the frames of a program in ascending order of their numbers.

Main results:

* `FrameTable.find?_put`: putting a frame into a table changes the entry of its number and no
  other.
-/
import TracePlayer.Trace.Event

set_option autoImplicit false

namespace TracePlayer

/-- How a frame was closed. -/
structure Closing where
  /-- The step of the closing event. -/
  step : Nat
  /-- The value it returned, if it recorded one. -/
  value : Option Json

/-- One activation of a function. -/
@[ext] structure Frame where
  /-- The number of the frame. -/
  id : FrameId
  /-- The function. -/
  function : String
  /-- How deep the frame lies in the stack. -/
  depth : UInt32
  /-- The frame that called it, as the tracer recorded it. -/
  parent : Option FrameId
  /-- The local variables. -/
  locals : Bindings Json
  /-- How the frame was closed, if it was. -/
  closing : Option Closing
  /-- The step of the first event that mentions the frame. -/
  createdAt : Nat

namespace Frame

/-- The frame as its first event presents it; its arguments are its first locals. -/
def ofEvent (step : Nat) (event : Event) : Frame where
  id := event.frame
  function := event.function
  depth := event.depth
  parent := event.parent
  locals := event.args.getD .empty
  closing := none
  createdAt := step

/-- Whether the frame has returned. -/
def isClosed (frame : Frame) : Bool := frame.closing.isSome

/-- The step at which the frame was closed. -/
def closedAt (frame : Frame) : Option Nat := frame.closing.map Closing.step

/-- The value the frame returned. -/
def returnValue (frame : Frame) : Option Json := frame.closing.bind Closing.value

/-- Whether no parent was recorded. -/
def isRoot (frame : Frame) : Bool := frame.parent.isNone

/-- The frame with the variables set that an event sets. -/
def assign (frame : Frame) (event : Event) : Frame :=
  { frame with
    locals := frame.locals.overlay ((event.assignments.getD .empty).toList) }

/-- The frame after a return; the first return counts. -/
def close (frame : Frame) (step : Nat) (value : Option Json) : Frame :=
  match frame.closing with
  | some _ => frame
  | none => { frame with closing := some ⟨step, value⟩ }

/-- The frame after one of its events. -/
def record (frame : Frame) (step : Nat) (event : Event) : Frame :=
  if event.kind.closesFrame then (frame.assign event).close step event.returnValue
  else frame.assign event

@[simp] theorem id_close (frame : Frame) (step : Nat) (value : Option Json) :
    (frame.close step value).id = frame.id := by
  unfold close
  split <;> rfl

@[simp] theorem id_record (frame : Frame) (step : Nat) (event : Event) :
    (frame.record step event).id = frame.id := by
  unfold record
  split
  · exact id_close _ step event.returnValue
  · rfl

end Frame

/-! ### Tables of frames -/

/-- Frames in ascending order of their numbers. -/
@[ext] structure FrameTable where
  /-- The frames. -/
  toList : List Frame
  /-- The numbers ascend. -/
  sorted : toList.Pairwise fun a b => a.id < b.id

namespace FrameTable

/-- Puts a frame into an ascending list, in place of the one with its number if there is one. -/
def putInto (frame : Frame) : List Frame → List Frame
  | [] => [frame]
  | head :: rest =>
      if frame.id < head.id then frame :: head :: rest
      else if frame.id = head.id then frame :: rest
      else head :: putInto frame rest

theorem mem_of_mem_putInto {frame other : Frame} {frames : List Frame}
    (h : other ∈ putInto frame frames) : other = frame ∨ other ∈ frames := by
  induction frames with
  | nil => simpa [putInto] using h
  | cons head rest ih =>
      unfold putInto at h
      split at h
      · simpa using h
      · split at h
        · rcases List.mem_cons.1 h with h | h
          · exact .inl h
          · exact .inr (List.mem_cons_of_mem _ h)
        · rcases List.mem_cons.1 h with h | h
          · exact .inr (h ▸ List.mem_cons_self)
          · exact (ih h).imp id (List.mem_cons_of_mem _)

theorem sorted_putInto (frame : Frame) {frames : List Frame}
    (h : frames.Pairwise fun a b => a.id < b.id) :
    (putInto frame frames).Pairwise fun a b => a.id < b.id := by
  induction frames with
  | nil => simp [putInto]
  | cons head rest ih =>
      obtain ⟨hhead, hrest⟩ := List.pairwise_cons.1 h
      unfold putInto
      split
      · next hlt =>
          refine List.pairwise_cons.2 ⟨fun other hother => ?_, h⟩
          rcases List.mem_cons.1 hother with rfl | hother
          · exact hlt
          · exact UInt64.lt_trans hlt (hhead other hother)
      · split
        · next heq =>
            exact List.pairwise_cons.2 ⟨fun other hother => heq ▸ hhead other hother, hrest⟩
        · next hnlt hne =>
            refine List.pairwise_cons.2 ⟨fun other hother => ?_, ih hrest⟩
            rcases mem_of_mem_putInto hother with rfl | hother
            · exact UInt64.lt_of_le_of_ne (UInt64.not_lt.1 hnlt) fun e => hne e.symm
            · exact hhead other hother

/-- No frames. -/
def empty : FrameTable := ⟨[], .nil⟩

instance : Inhabited FrameTable := ⟨empty⟩

/-- The number of frames. -/
def size (table : FrameTable) : Nat := table.toList.length

/-- The frame with a given number. -/
def find? (table : FrameTable) (id : FrameId) : Option Frame :=
  table.toList.find? fun frame => frame.id == id

/-- Puts a frame into the table, in place of the one with its number if there is one. -/
def put (table : FrameTable) (frame : Frame) : FrameTable :=
  ⟨putInto frame table.toList, sorted_putInto frame table.sorted⟩

theorem find?_putInto (frame : Frame) (id : FrameId) {frames : List Frame}
    (h : frames.Pairwise fun a b => a.id < b.id) :
    (putInto frame frames).find? (fun other => other.id == id)
      = if id = frame.id then some frame else frames.find? fun other => other.id == id := by
  induction frames with
  | nil =>
      by_cases e : id = frame.id
      · simp [putInto, e]
      · have e' : (frame.id == id) = false := beq_eq_false_iff_ne.2 fun x => e x.symm
        simp [putInto, e, e']
  | cons head rest ih =>
      have ih := ih h.of_cons
      unfold putInto
      split
      · by_cases e : id = frame.id
        · simp [e]
        · have e' : (frame.id == id) = false := beq_eq_false_iff_ne.2 fun x => e x.symm
          simp [e, e']
      · next hlt =>
          split
          · next heq =>
              by_cases e : id = frame.id
              · simp [e]
              · have e' : (frame.id == id) = false := beq_eq_false_iff_ne.2 fun x => e x.symm
                have e'' : (head.id == id) = false := heq ▸ e'
                simp only [List.find?_cons, e', e'', e, if_false]
          · next hne =>
              by_cases e : head.id = id
              · have e' : ¬ id = frame.id := fun x => hne (e.trans x).symm
                simp [e, e']
              · have e' : (head.id == id) = false := by simp [e]
                simp only [List.find?_cons, e', ih]

/-- Putting a frame into a table changes the entry of its number and no other. -/
theorem find?_put (table : FrameTable) (frame : Frame) (id : FrameId) :
    (table.put frame).find? id = if id = frame.id then some frame else table.find? id :=
  find?_putInto frame id table.sorted

end FrameTable

end TracePlayer
