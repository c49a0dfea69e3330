/-
**What changes between two states.**

Main definitions:

* `LocalChange`, `Change`: the change of one variable, and of a whole state;
* `Change.between`: the change from one state to a later one;
* `Change.ofLastEvent`: the change made by the last event, from the earlier form of its frame;
* `Change.merge`: two changes, one after the other.
-/
import TracePlayer.Program.State

set_option autoImplicit false

namespace TracePlayer

/-- The change of one local variable. -/
structure LocalChange where
  /-- The frame of the variable. -/
  frame : FrameId
  /-- The name of the variable. -/
  name : String
  /-- Its value before, if it had one. -/
  old : Option Json
  /-- Its value after. -/
  new : Json

/-- The change of a state. -/
structure Change where
  /-- The frames that began. -/
  created : List FrameId
  /-- The frames that returned. -/
  closed : List FrameId
  /-- The variables that were bound or bound again. -/
  locals : List LocalChange
  /-- The output that was printed. -/
  output : String

/-! ### Texts cut at an offset -/

/-- What is left of a text after a number of bytes; nothing if the cut is past the end or inside a
character. -/
def dropBytes? : Nat → List Char → Option (List Char)
  | 0, cs => some cs
  | _ + 1, [] => none
  | n + 1, c :: cs =>
      if c.utf8Size ≤ n + 1 then dropBytes? (n + 1 - c.utf8Size) cs else none

/-- What is left of a text after another one at its front. -/
def stripFront? (front text : String) : Option String :=
  if front.toList.isPrefixOf text.toList then
    some (String.ofList (text.toList.drop front.toList.length))
  else none

namespace Change

/-- No change. -/
def none : Change := ⟨[], [], [], ""⟩

instance : Inhabited Change := ⟨none⟩

/-- The variables of a frame whose value differs from the one in its earlier form. -/
def localsOf (prior : Option Frame) (frame : Frame) : List LocalChange :=
  frame.locals.toList.filterMap fun (name, value) =>
    let old := prior.bind fun earlier => earlier.locals.find? name
    if Json.sameOption old (some value) then Option.none
    else some ⟨frame.id, name, old, value⟩

/-- The change of one frame from its earlier form, which is missing if the frame is new. -/
def ofFrame (prior : Option Frame) (frame : Frame) : Change where
  created := if prior.isNone then [frame.id] else []
  closed := if frame.isClosed && !prior.any Frame.isClosed then [frame.id] else []
  locals := localsOf prior frame
  output := ""

/-- The change from one state to a later one.  If the earlier output is not at the front of the
later one, all of the later output counts as printed. -/
def between (before after : State) : Change :=
  let changes := after.frames.toList.map fun frame => ofFrame (before.frame? frame.id) frame
  { created := changes.flatMap Change.created
    closed := changes.flatMap Change.closed
    locals := changes.flatMap Change.locals
    output := (stripFront? before.stdout after.stdout).getD after.stdout }

/-- The change made by the last event of a state: only its own frame, whose earlier form is
`prior`, and the output from the byte `offset` on can have changed. -/
def ofLastEvent (prior : Option Frame) (offset : Nat) (after : State) : Change :=
  match after.lastEvent with
  | .none => none
  | some event =>
      let change := match after.frame? event.frame with
        | some frame => ofFrame prior frame
        | .none => none
      { change with
        output := ((dropBytes? offset after.stdout.toList).map String.ofList).getD "" }

/-- Whether anything changed. -/
def hasChanges (change : Change) : Bool :=
  !change.created.isEmpty || !change.closed.isEmpty || !change.locals.isEmpty
    || !change.output.isEmpty

/-- Whether a variable changed. -/
def changedLocal (change : Change) (frame : FrameId) (name : String) : Bool :=
  change.locals.any fun entry => entry.frame == frame && entry.name == name

/-- Adds the change of one variable to earlier ones: an entry of the same variable takes over the
later value. -/
def mergeLocal : List LocalChange → LocalChange → List LocalChange
  | [], later => [later]
  | entry :: rest, later =>
      if entry.frame = later.frame ∧ entry.name = later.name then
        { entry with new := later.new } :: rest
      else entry :: mergeLocal rest later

/-- Two changes, one after the other. -/
def merge (first second : Change) : Change where
  created := first.created ++ second.created
  closed := first.closed ++ second.closed
  locals := second.locals.foldl mergeLocal first.locals
  output := first.output ++ second.output

/-- A change as a JSON object. -/
def encode (change : Change) : Json :=
  .obj [("frames_created", .arr (change.created.map Event.wordJson)),
    ("frames_closed", .arr (change.closed.map Event.wordJson)),
    ("locals_changed", .arr (change.locals.map fun entry =>
      .obj [("frame_id", Event.wordJson entry.frame), ("name", .str entry.name),
        ("old", .ofOption id entry.old), ("new", entry.new)])),
    ("stdout_appended", .str change.output)]

end Change

end TracePlayer
