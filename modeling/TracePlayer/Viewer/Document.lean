/-
**Views as JSON.**

Main definitions:

* `View.encode`: all that is on show as a JSON object, part by part.
-/
import TracePlayer.Viewer.View

set_option autoImplicit false

namespace TracePlayer

/-- A line of the source as a JSON object. -/
def SourceLine.encode (line : SourceLine) : Json :=
  .obj [("number", .ofNat line.number), ("text", .str line.text),
    ("highlighted", .bool line.highlighted)]

/-- A row of the call tree as a JSON object. -/
def TreeRow.encode (row : TreeRow) : Json :=
  .obj [("frame_id", Event.wordJson row.frame), ("level", .ofNat row.level),
    ("function_name", .str row.function), ("closed", .bool row.closed),
    ("return_value", .ofOption Json.str row.returnValue), ("selected", .bool row.selected)]

/-- A tab as a JSON object. -/
def FrameTab.encode (tab : FrameTab) : Json :=
  .obj [("frame_id", Event.wordJson tab.frame), ("function_name", .str tab.function),
    ("depth", .ofNat tab.depth.toNat), ("closed", .bool tab.closed),
    ("selected", .bool tab.selected)]

/-- A variable as a JSON object. -/
def LocalRow.encode (row : LocalRow) : Json :=
  .obj [("name", .str row.name), ("value", .str row.value), ("changed", .bool row.changed)]

/-- The variables of a frame as a JSON object. -/
def LocalsTable.encode (table : LocalsTable) : Json :=
  .obj [("frame_id", .ofOption Event.wordJson table.frame),
    ("function_name", .str table.function), ("rows", .arr (table.rows.map LocalRow.encode))]

/-- The status bar as a JSON object. -/
def StatusLine.encode (status : StatusLine) : Json :=
  .obj [("step_index", .ofNat status.step), ("max_step", .ofNat status.maxStep),
    ("playing", .bool status.playing), ("speed", .ofBinary64 status.speed),
    ("event", .ofOption Json.str status.event),
    ("function_name", .ofOption Json.str status.function),
    ("line", .ofOption (fun line => .ofNat line.toNat) status.line),
    ("frame_id", .ofOption Event.wordJson status.frame),
    ("exception",
      .ofOption (fun exception => .arr [.str exception.1, .str exception.2]) status.exception)]

/-- **All that is on show** as a JSON object. -/
def View.encode (view : View) : Json :=
  .obj [("filename", .str view.filename), ("source", .arr (view.source.map SourceLine.encode)),
    ("tree", .arr (view.tree.map TreeRow.encode)), ("tabs", .arr (view.tabs.map FrameTab.encode)),
    ("locals", view.locals.encode), ("stdout", .str view.stdout),
    ("status", view.status.encode)]

end TracePlayer
