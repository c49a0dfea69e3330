/-
**The call forest.**

Every frame hangs below the frame that called it, provided that this is another frame of the state
and began before it; all other frames are roots.

Main definitions:

* `Forest`: the frames with their parents in the forest;
* `Forest.ofFrames`: the forest of a table of frames;
* `Forest.walkStack?`, `Forest.walk?`: the walk through the forest with a stack, which may not come
  to an end;
* `Forest.walk`: the frames in the order of the walk, with their levels.
-/
import TracePlayer.Program.State

set_option autoImplicit false

namespace TracePlayer

/-- A frame and its parent in the forest. -/
structure Forest.Entry where
  /-- The frame. -/
  frame : FrameId
  /-- Its parent, nothing for a root. -/
  parent : Option FrameId
  deriving DecidableEq

/-- The frames of a program with their parents, in ascending order. -/
structure Forest where
  /-- The frames and their parents. -/
  entries : List Forest.Entry
  deriving DecidableEq

/-- A frame met on a walk through the forest. -/
structure Forest.Visit where
  /-- The frame. -/
  frame : FrameId
  /-- The number of frames above it. -/
  level : Nat
  deriving DecidableEq

namespace Forest

/-- The parent of a frame in the forest: the recorded one, if it is another frame of the table that
began no later. -/
def parentIn (frames : FrameTable) (frame : Frame) : Option FrameId :=
  frame.parent.filter fun parent =>
    parent != frame.id
      && (frames.find? parent).any fun other => decide (other.createdAt ≤ frame.createdAt)

/-- The forest of a table of frames. -/
def ofFrames (frames : FrameTable) : Forest :=
  ⟨frames.toList.map fun frame => ⟨frame.id, parentIn frames frame⟩⟩

/-- The roots, in ascending order. -/
def roots (forest : Forest) : List FrameId :=
  (forest.entries.filter fun entry => entry.parent.isNone).map Entry.frame

/-- The children of a frame, in ascending order. -/
def children (forest : Forest) (frame : FrameId) : List FrameId :=
  (forest.entries.filter fun entry => entry.parent == some frame).map Entry.frame

/-- The frames that have children, each with its children. -/
def families (forest : Forest) : List (FrameId × List FrameId) :=
  (forest.entries.map fun entry => (entry.frame, forest.children entry.frame)).filter
    fun family => !family.2.isEmpty

/-- The number of roots and children. -/
def size (forest : Forest) : Nat :=
  forest.families.foldr (fun family size => family.2.length + size) forest.roots.length

/-- Whether the forest has no roots. -/
def isEmpty (forest : Forest) : Bool := forest.roots.isEmpty

/-- The children of a frame that was met, one level further down. -/
def below (forest : Forest) (visit : Visit) : List Visit :=
  (forest.children visit.frame).map fun child => ⟨child, visit.level + 1⟩

/-- **The walk**: the frame on top of the stack is met, and its children take its place, until the
stack is empty.  A walk that goes on for more than `turns` frames is broken off and shows
nothing. -/
def walkStack? (forest : Forest) : Nat → List Visit → Option (List Visit)
  | _, [] => some []
  | 0, _ :: _ => none
  | turns + 1, visit :: stack =>
      (forest.walkStack? turns (forest.below visit ++ stack)).map (visit :: ·)

/-- A walk from the roots that meets no more frames than there are. -/
def walk? (forest : Forest) : Option (List Visit) :=
  forest.walkStack? forest.entries.length (forest.roots.map fun root => ⟨root, 0⟩)

/-- The frames in the order of the walk. -/
def walk (forest : Forest) : List Visit := forest.walk?.getD []

end Forest

/-- The call forest of a state. -/
def State.forest (state : State) : Forest := Forest.ofFrames state.frames

end TracePlayer
