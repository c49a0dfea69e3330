/-
**The change made by one event.**

An event touches the frame it belongs to, the output and nothing else.  What it changed can
therefore be told from the earlier form of one frame and the length of the earlier output, without
comparing two whole states.

Main results:

* `Change.ofFrame_self`: a frame that did not change contributes nothing;
* `dropBytes?_append`: the text after a number of bytes that end a first part;
* `Change.ofLastEvent_apply`: **the change told from one frame is the full comparison** of the
  states before and after the event.
-/
import TracePlayer.Program.Change
import TracePlayer.Proofs.Bindings
import TracePlayer.Proofs.Json.Same
import TracePlayer.Proofs.Program.FrameTable

set_option autoImplicit false

namespace TracePlayer

/-! ### Texts cut after their first part -/

/-- The bytes of a text before the rest of a longer one can be dropped from the longer one. -/
theorem dropBytes?_append (first second : List Char) :
    dropBytes? (String.ofList first).utf8ByteSize (first ++ second) = some second := by
  induction first with
  | nil => simp [dropBytes?]
  | cons c rest ih =>
      have hsize : (String.ofList (c :: rest)).utf8ByteSize
          = c.utf8Size + (String.ofList rest).utf8ByteSize := by
        rw [String.ofList_cons, String.utf8ByteSize_append, String.utf8ByteSize_singleton]
      -- Characters are dropped while bytes are left, and each of them takes at least one.
      have hpos : 0 < c.utf8Size := c.utf8Size_pos
      obtain ⟨n, hn⟩ : ∃ n, c.utf8Size + (String.ofList rest).utf8ByteSize = n + 1 :=
        ⟨_, (Nat.sub_add_cancel (by omega)).symm⟩
      have hrest : n + 1 - c.utf8Size = (String.ofList rest).utf8ByteSize := by omega
      rw [hsize, hn, List.cons_append, dropBytes?, if_pos (by omega), hrest, ih]

theorem stripFront?_append (first second : String) :
    stripFront? first (first ++ second) = some second := by
  simp [stripFront?, String.toList_append]

/-! ### One frame -/

namespace Change

/-- A frame that did not change contributes nothing. -/
theorem ofFrame_self (frame : Frame) : ofFrame (some frame) frame = none := by
  have hlocals : localsOf (some frame) frame = [] := by
    refine List.filterMap_eq_nil_iff.2 fun pair hpair => ?_
    have hfind : frame.locals.find? pair.1 = some pair.2 := Bindings.find?_eq_some_iff.2 hpair
    simp [hfind]
  cases hclosed : frame.isClosed <;> simp [ofFrame, none, hlocals, hclosed]

/-! ### One event -/

/-- A list gathered over the frames after an event, to which the frames that it left alone
contribute nothing. -/
theorem flatMap_frames_apply {α : Type} (state : State) (event : Event) (part : Change → List α)
    (hnone : part none = []) :
    (((state.apply event).frames.toList.map fun frame =>
        ofFrame (state.frame? frame.id) frame).flatMap part)
      = part (ofFrame (state.frame? event.frame)
          ((state.frameOf event).record state.applied event)) := by
  have hid : ((state.frameOf event).record state.applied event).id = event.frame := by simp
  rw [List.flatMap_map, State.apply, FrameTable.flatMap_put, hid]
  intro other hother _
  -- Any other frame is as it was before the event.
  have hfind : state.frame? other.id = some other := FrameTable.find?_of_mem hother
  rw [hfind, ofFrame_self, hnone]

/-- **The change told from one frame is the full comparison**: the earlier form of the frame that
the event belongs to and the length of the earlier output are enough. -/
theorem ofLastEvent_apply (state : State) (event : Event) :
    ofLastEvent (state.frame? event.frame) state.stdout.utf8ByteSize (state.apply event)
      = between state (state.apply event) := by
  have hframe : (state.apply event).frame? event.frame
      = some ((state.frameOf event).record state.applied event) := by
    rw [State.frame?_apply, if_pos rfl]
  have hlast : (state.apply event).lastEvent = some event := rfl
  have hout : (state.apply event).stdout = state.stdout ++ event.fragment := rfl
  have hdrop : dropBytes? state.stdout.utf8ByteSize (state.stdout ++ event.fragment).toList
      = some event.fragment.toList := by
    have h := dropBytes?_append state.stdout.toList event.fragment.toList
    rwa [String.ofList_toList, ← String.toList_append] at h
  simp only [ofLastEvent, between, hlast, hframe, hout, hdrop, stripFront?_append,
    flatMap_frames_apply state event created rfl, flatMap_frames_apply state event closed rfl,
    flatMap_frames_apply state event locals rfl, Option.map_some, Option.getD_some,
    String.ofList_toList]

end Change

end TracePlayer
