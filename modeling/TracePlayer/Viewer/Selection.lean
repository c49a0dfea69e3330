/-
**The selected frame.**

The locals of one frame are on show.  The selection follows the event under the cursor whenever the
cursor moves; a frame picked by hand holds until the next move, a pinned one as long as it exists.

Main definitions:

* `State.frameOrder`: the frames by depth, then by number;
* `Selection`: the selected frame and whether it is pinned;
* `Selection.follow`, `Selection.next`, `Selection.previous`: how the selection moves.
-/
import TracePlayer.Program.State

set_option autoImplicit false

namespace TracePlayer

/-- Whether a frame comes before another one: it lies less deep, or as deep with a number that is
no greater. -/
def Frame.comesBefore (a b : Frame) : Bool :=
  decide (a.depth < b.depth) || (a.depth == b.depth && decide (a.id ≤ b.id))

/-- The frames of a state by depth, then by number. -/
def State.frameOrder (state : State) : List FrameId :=
  (state.frames.toList.mergeSort Frame.comesBefore).map Frame.id

/-- The selected frame and whether it is pinned. -/
structure Selection where
  /-- The frame that was selected last. -/
  selected : Option FrameId
  /-- Whether it is pinned. -/
  pinned : Bool
  deriving DecidableEq

namespace Selection

/-- Nothing selected. -/
def none : Selection := ⟨.none, false⟩

instance : Inhabited Selection := ⟨none⟩

/-- The selected frame, if it exists in a state. -/
def resolve (selection : Selection) (state : State) : Option FrameId :=
  selection.selected.filter fun id => (state.frame? id).isSome

/-- The cursor moved: the selection goes to the frame of the last event, unless a pinned frame
holds it. -/
def follow (selection : Selection) (state : State) : Selection :=
  if selection.pinned && (selection.resolve state).isSome then selection
  else match state.lastEvent with
    | some event => ⟨some event.frame, false⟩
    | .none => { selection with pinned := false }

/-- Selects a frame. -/
def select (selection : Selection) (id : FrameId) : Selection :=
  { selection with selected := some id }

/-- Pins the selected frame. -/
def pin (selection : Selection) : Selection :=
  { selection with pinned := selection.selected.isSome }

/-- Drops the pin. -/
def unpin (selection : Selection) : Selection := { selection with pinned := false }

/-- Drops the pin if there is one, and sets one otherwise. -/
def togglePin (selection : Selection) : Selection :=
  if selection.pinned then selection.unpin else selection.pin

/-- The place of the selected frame in the order of the frames, if it exists. -/
def position (selection : Selection) (state : State) : Option Nat :=
  (selection.resolve state).bind fun id => state.frameOrder.idxOf? id

/-- Goes some places on in the order of the frames, around its ends.  From a frame that does not
exist it goes to the first one, or to the last one when it goes backwards. -/
def cycle (selection : Selection) (state : State) (places : Int) : Selection :=
  let order := state.frameOrder
  if order.isEmpty then selection
  else
    let target : Nat := match selection.position state with
      | some place => ((place + places) % (order.length : Int)).toNat
      | .none => if 0 ≤ places then 0 else order.length - 1
    match order[target]? with
    | some id => selection.select id
    | .none => selection

/-- Selects the next frame. -/
def next (selection : Selection) (state : State) : Selection := selection.cycle state 1

/-- Selects the previous frame. -/
def previous (selection : Selection) (state : State) : Selection := selection.cycle state (-1)

end Selection

end TracePlayer
