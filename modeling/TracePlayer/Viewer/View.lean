/-
**What is on show.**

A view is made from a state, a cursor, a change and a selection whenever the screen is drawn, and
holds nothing that could not be made again.

Main definitions:

* `SourceLine`, `TreeRow`, `FrameTab`, `LocalsTable`, `StatusLine`: the contents of the panels;
* `View`, `View.build`: all of them, and how they are made.
-/
import TracePlayer.Playback.Cursor
import TracePlayer.Program.Change
import TracePlayer.Program.Forest
import TracePlayer.Trace.Log
import TracePlayer.Viewer.Selection

set_option autoImplicit false

namespace TracePlayer

/-- A numbered line of the source. -/
structure SourceLine where
  /-- The number of the line, counted from one. -/
  number : Nat
  /-- The line. -/
  text : String
  /-- Whether the last event ran this line. -/
  highlighted : Bool
  deriving DecidableEq

/-- A row of the call tree. -/
structure TreeRow where
  /-- The frame. -/
  frame : FrameId
  /-- The number of frames above it in the tree. -/
  level : Nat
  /-- The function. -/
  function : String
  /-- Whether the frame has returned. -/
  closed : Bool
  /-- The value it returned, in JSON. -/
  returnValue : Option String
  /-- Whether the frame is selected. -/
  selected : Bool
  deriving DecidableEq

/-- A tab of the locals panel. -/
structure FrameTab where
  /-- The frame. -/
  frame : FrameId
  /-- The function. -/
  function : String
  /-- How deep the frame lies in the stack. -/
  depth : UInt32
  /-- Whether the frame has returned. -/
  closed : Bool
  /-- Whether the frame is selected. -/
  selected : Bool
  deriving DecidableEq

/-- A local variable. -/
structure LocalRow where
  /-- The name. -/
  name : String
  /-- The value, in JSON. -/
  value : String
  /-- Whether the last step changed it. -/
  changed : Bool
  deriving DecidableEq

/-- The local variables of one frame. -/
structure LocalsTable where
  /-- The frame, if one is on show. -/
  frame : Option FrameId
  /-- Its function. -/
  function : String
  /-- Its variables. -/
  rows : List LocalRow
  deriving DecidableEq

/-- The contents of the status bar. -/
structure StatusLine where
  /-- The step under the cursor. -/
  step : Nat
  /-- The last step. -/
  maxStep : Nat
  /-- Whether the playback runs. -/
  playing : Bool
  /-- The speed of the playback. -/
  speed : Binary64
  /-- The kind of the last event. -/
  event : Option String
  /-- The function of the last event. -/
  function : Option String
  /-- The line of the last event. -/
  line : Option UInt32
  /-- The frame of the last event. -/
  frame : Option FrameId
  /-- The type and the message of the exception that the last event reports. -/
  exception : Option (String × String)
  deriving DecidableEq

/-- All that is on show. -/
structure View where
  /-- The name the program ran under. -/
  filename : String
  /-- The source, line by line. -/
  source : List SourceLine
  /-- The call tree, row by row. -/
  tree : List TreeRow
  /-- The tabs of the frames, by depth and number. -/
  tabs : List FrameTab
  /-- The locals of the selected frame. -/
  locals : LocalsTable
  /-- The output so far. -/
  stdout : String
  /-- The status bar. -/
  status : StatusLine
  deriving DecidableEq

/-! ### Source and tree -/

/-- The numbered lines of a source, of which one may be highlighted. -/
def numberLines (current : Option UInt32) (lines : List String) : List SourceLine :=
  lines.mapIdx fun index text =>
    ⟨index + 1, text, current.any fun line => line.toNat == index + 1⟩

/-- What follows the name of a frame that has returned. -/
def returnNote (closed : Bool) (value : Option String) : String :=
  if closed then
    match value with
    | some text => " (returned: " ++ text ++ ")"
    | none => " (returned)"
  else ""

/-- The row of a frame. -/
def TreeRow.ofFrame (selected : Option FrameId) (level : Nat) (frame : Frame) : TreeRow where
  frame := frame.id
  level := level
  function := frame.function
  closed := frame.isClosed
  returnValue := frame.returnValue.map Json.compress
  selected := selected == some frame.id

/-- The row as a text: the function, the frame, and the value if it has returned. -/
def TreeRow.label (row : TreeRow) : String :=
  row.function ++ " " ++ row.frame.text ++ returnNote row.closed row.returnValue

/-- The rows of the call tree of a state. -/
def State.treeRows (state : State) (selected : Option FrameId) : List TreeRow :=
  state.forest.walk.filterMap fun visit =>
    (state.frame? visit.frame).map (TreeRow.ofFrame selected visit.level)

/-! ### Frames and locals -/

/-- The tab of a frame. -/
def FrameTab.ofFrame (selected : Option FrameId) (frame : Frame) : FrameTab where
  frame := frame.id
  function := frame.function
  depth := frame.depth
  closed := frame.isClosed
  selected := selected == some frame.id

/-- The tabs of a state. -/
def State.tabs (state : State) (selected : Option FrameId) : List FrameTab :=
  (state.frameOrder.filterMap state.frame?).map (FrameTab.ofFrame selected)

namespace LocalsTable

/-- No frame is on show. -/
def none : LocalsTable := ⟨.none, "", []⟩

/-- The variables of a frame, those marked that a change names. -/
def ofFrame (change : Change) (frame : Frame) : LocalsTable where
  frame := some frame.id
  function := frame.function
  rows := frame.locals.toList.map fun (name, value) =>
    ⟨name, value.compress, change.changedLocal frame.id name⟩

/-- The variables of the selected frame of a state. -/
def build (state : State) (selected : Option FrameId) (change : Change) : LocalsTable :=
  match selected.bind state.frame? with
  | some frame => ofFrame change frame
  | .none => none

/-- Whether there are no variables. -/
def isEmpty (table : LocalsTable) : Bool := table.rows.isEmpty

end LocalsTable

/-! ### Status -/

namespace StatusLine

/-- Speeds are always written positionally, and without a point if they are whole. -/
def speedLayout : DecimalLayout where
  positional := none
  keepsPoint := false
  tie := .up
  nan := "NaN"
  infinity := "inf"

/-- The status of a state at a cursor. -/
def build (log : Log) (state : State) (cursor : Cursor) : StatusLine where
  step := cursor.step
  maxStep := log.maxStep
  playing := cursor.playing
  speed := cursor.speed
  event := state.lastEvent.map fun event => event.kind.name
  function := state.lastEvent.map Event.function
  line := state.lastEvent.map Event.line
  frame := state.lastEvent.map Event.frame
  exception := state.lastEvent.bind Event.exception?

/-- What the last event was, if there was one. -/
def eventNote (status : StatusLine) : String :=
  match status.event, status.line, status.frame with
  | some event, some line, some frame =>
      " | " ++ event ++ " " ++ status.function.getD "" ++ " line " ++ toString line.toNat ++ " "
        ++ frame.text
  | _, _, _ => ""

/-- Which exception was reported, if there was one. -/
def exceptionNote (status : StatusLine) : String :=
  match status.exception with
  | some (type, message) => " | " ++ type ++ ": " ++ message
  | none => ""

/-- The status as one line of text. -/
def summary (status : StatusLine) : String :=
  "step " ++ toString status.step ++ "/" ++ toString status.maxStep ++ " | "
    ++ (if status.playing then "playing" else "paused") ++ " | "
    ++ speedLayout.render status.speed ++ "x" ++ status.eventNote ++ status.exceptionNote

end StatusLine

/-! ### The whole view -/

namespace View

/-- **The view of a state.**  The change is the one from the step before; it marks the variables
that were set. -/
def build (log : Log) (state : State) (cursor : Cursor) (change : Change)
    (selection : Selection) : View :=
  let selected := selection.resolve state
  { filename := log.filename
    source := numberLines state.line? log.sourceLines
    tree := state.treeRows selected
    tabs := state.tabs selected
    locals := .build state selected change
    stdout := state.stdout
    status := .build log state cursor }

/-- The place of the highlighted line. -/
def highlightedIndex (view : View) : Option Nat :=
  view.source.findIdx? SourceLine.highlighted

/-- The place of the selected row of the tree. -/
def selectedIndex (view : View) : Option Nat := view.tree.findIdx? TreeRow.selected

end View

end TracePlayer
