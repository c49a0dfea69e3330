/-
**The panels.**

Main definitions:

* `Panel`: the five panels;
* `SourceLine.line`, `TreeRow.spans`, `View.tabLine`: the contents of the panels as styled lines;
* `Window`, `View.sourceWindow`, `View.treeWindow`: the part of a list that is in sight;
* `Panel.draw`, `View.draw`: one panel in an area, and all of them in the areas of a layout.
-/
import TracePlayer.Screen.Block
import TracePlayer.Text.Lines
import TracePlayer.Text.Pad
import TracePlayer.Viewer.Theme
import TracePlayer.Viewer.View

set_option autoImplicit false

namespace TracePlayer

/-- A panel of the viewer. -/
inductive Panel where
  | source
  | tree
  | locals
  | stdout
  | status
  deriving DecidableEq

/-! ### Lines -/

/-- A line of the source behind its number. -/
def SourceLine.line (theme : Theme) (source : SourceLine) : Line where
  spans := [⟨padLeft 4 (toString source.number) ++ " ", .colored theme.muted⟩, ⟨source.text, {}⟩]
  style := if source.highlighted then theme.highlightStyle else {}

/-- The text behind a frame that has returned. -/
def TreeRow.tail (row : TreeRow) : String :=
  match row.returnValue with
  | some value => " (returned: " ++ value ++ ")"
  | none => " (returned)"

/-- The texts of a row of the tree: blanks for its level, the function, the frame, and the value
if it has returned. -/
def TreeRow.spans (theme : Theme) (row : TreeRow) : List Span :=
  [⟨blanks (2 * row.level), {}⟩, ⟨row.function, .colored theme.accent⟩,
    ⟨" " ++ row.frame.text, .colored theme.muted⟩]
    ++ if row.closed then [⟨row.tail, .colored theme.muted⟩] else []

/-- A row of the tree. -/
def TreeRow.line (theme : Theme) (row : TreeRow) : Line where
  spans := row.spans theme
  style := if row.selected then theme.highlightStyle else {}

/-- The text of a tab. -/
def FrameTab.label (tab : FrameTab) : String :=
  "[" ++ tab.function ++ " " ++ tab.frame.text ++ (if tab.closed then " ✔" else "") ++ "]"

/-- The tabs in one line. -/
def View.tabLine (theme : Theme) (view : View) : Line where
  spans := view.tabs.flatMap fun tab =>
    [⟨tab.label, if tab.selected then theme.highlightStyle else .colored theme.muted⟩, ⟨" ", {}⟩]

/-- The row of a variable; one that the last step changed is marked. -/
def LocalRow.cells (theme : Theme) (row : LocalRow) : Span × Span :=
  (⟨row.name, .colored theme.accent⟩,
    if row.changed then
      ⟨"*" ++ row.value, { foreground := some theme.changed, bold := true }⟩
    else ⟨" " ++ row.value, {}⟩)

/-! ### What is in sight -/

/-- The rows of a list from the scroll offset on. -/
def Window {α : Type} (focus : Option Nat) (rows : List α) (height : Nat) : List α :=
  rows.drop (scrollOffset focus rows.length height)

/-- The source from the first line in sight. -/
def View.sourceWindow (view : View) (area : Area) : List SourceLine :=
  Window view.highlightedIndex view.source area.innerHeight

/-- The tree from the first row in sight. -/
def View.treeWindow (view : View) (area : Area) : List TreeRow :=
  Window view.selectedIndex view.tree area.innerHeight

/-- The lines of the output. -/
def View.outputLines (view : View) : List String := Lines.terminated view.stdout

/-- The last lines of the output that are in sight. -/
def View.outputWindow (view : View) (area : Area) : List String :=
  view.outputLines.drop (view.outputLines.length - area.innerHeight)

/-! ### Drawing -/

/-- The rows inside the locals panel: the tabs, and the variables of the selected frame or a
hint. -/
def View.drawLocals (view : View) (theme : Theme) (canvas : Canvas) (inner : Area) : Canvas :=
  let canvas := canvas.wrapped { inner with height := 1 } true [view.tabLine theme]
  let below := inner.belowFirstRow
  let hint (text : String) : Canvas :=
    (canvas.restyle (canvas.clip below) (.colored theme.muted)).paragraph below [.plain text {}]
  if view.locals.frame.isNone then hint "Select a frame"
  else if view.locals.isEmpty then hint "(empty)"
  else
    canvas.table below (⟨"Name", {}⟩, ⟨"Value", {}⟩) (.colored theme.muted)
      (view.locals.rows.map (LocalRow.cells theme))

/-- Draws a panel in an area. -/
def Panel.draw (panel : Panel) (view : View) (theme : Theme) (canvas : Canvas) (area : Area) :
    Canvas :=
  match panel with
  | .source =>
      (canvas.box area view.filename).paragraph (canvas.clip area).inside
        ((view.sourceWindow area).map (SourceLine.line theme))
  | .tree =>
      (canvas.box area "Call Tree").paragraph (canvas.clip area).inside
        ((view.treeWindow area).map (TreeRow.line theme))
  | .locals =>
      let canvas := canvas.box area "Locals"
      if area.inside.height = 0 then canvas
      else view.drawLocals theme canvas area.inside
  | .stdout =>
      if view.stdout.isEmpty then
        ((canvas.restyle (canvas.clip area) (.colored theme.muted)).box area "Stdout").paragraph
          (canvas.clip area).inside [.plain "(no output)" {}]
      else
        (canvas.box area "Stdout").paragraph (canvas.clip area).inside
          ((view.outputWindow area).map fun text => Line.plain text {})
  | .status =>
      let style : Style := if view.status.exception.isSome then .colored theme.error else {}
      (canvas.rule area).wrapped (canvas.clip area).belowFirstRow false
        [.plain (" " ++ view.status.summary ++ " | ? help") style]

/-- The number of rows a panel would show. -/
def Panel.itemCount (panel : Panel) (view : View) : Nat :=
  match panel with
  | .source => view.source.length
  | .tree => view.tree.length
  | .locals => view.locals.rows.length
  | .stdout => view.outputLines.length
  | .status => 1

/-- Draws all panels in the areas of a layout. -/
def View.draw (view : View) (theme : Theme) (layout : Layout) (canvas : Canvas) : Canvas :=
  [(Panel.source, layout.source), (.tree, layout.tree), (.locals, layout.locals),
    (.stdout, layout.stdout), (.status, layout.status)].foldl
    (fun canvas (panel, area) => panel.draw view theme canvas area) canvas

end TracePlayer
