/-
**The screen.**

Main definitions:

* `Cell`, `Canvas`: a cell of the screen and all of them;
* `Canvas.put`, `Canvas.restyle`: a piece of text in a cell, a style over an area;
* `Canvas.rowText`, `Canvas.rowStyles`: what a row shows.
-/
import TracePlayer.Screen.Style
import TracePlayer.Viewer.Layout

set_option autoImplicit false

namespace TracePlayer

/-- A cell of the screen. -/
structure Cell where
  /-- The text in the cell. -/
  symbol : String := " "
  /-- The colour of the text. -/
  foreground : Color := .reset
  /-- The colour behind the text. -/
  background : Color := .reset
  /-- Whether the text is bold. -/
  bold : Bool := false
  deriving DecidableEq, Inhabited

/-- A cell with a style over it. -/
def Cell.restyle (cell : Cell) (style : Style) : Cell :=
  { cell with
    foreground := style.foreground.getD cell.foreground
    background := style.background.getD cell.background
    bold := cell.bold || style.bold }

/-- The style of a cell in words. -/
def Cell.styleText (cell : Cell) : String :=
  cell.foreground.name ++ " " ++ cell.background.name ++ (if cell.bold then " BOLD" else " NONE")

/-- Whether the text in a cell takes more than one. -/
def Cell.isWide (cell : Cell) : Bool := decide (1 < textWidth cell.symbol)

/-- The cells of a screen, row by row. -/
structure Canvas where
  /-- The number of columns. -/
  width : Nat
  /-- The number of rows. -/
  height : Nat
  /-- The cells. -/
  cells : Array Cell

namespace Canvas

/-- An empty screen. -/
def blank (width height : Nat) : Canvas := ⟨width, height, Array.replicate (width * height) {}⟩

/-- The whole screen as an area. -/
def area (canvas : Canvas) : Area := ⟨0, 0, canvas.width, canvas.height⟩

/-- The part of an area that lies on the screen. -/
def clip (canvas : Canvas) (area : Area) : Area :=
  { area with
    width := Nat.min area.width (canvas.width - area.x)
    height := Nat.min area.height (canvas.height - area.y) }

/-- Changes one cell; nothing happens outside the screen. -/
def modify (canvas : Canvas) (column row : Nat) (change : Cell → Cell) : Canvas :=
  if column < canvas.width ∧ row < canvas.height then
    { canvas with cells := canvas.cells.modify (row * canvas.width + column) change }
  else canvas

/-- Puts a piece of text into a cell. -/
def put (canvas : Canvas) (column row : Nat) (symbol : String) (style : Style) : Canvas :=
  canvas.modify column row fun cell => { cell with symbol := symbol }.restyle style

/-- Adds a piece of text to what a cell shows. -/
def extend (canvas : Canvas) (column row : Nat) (symbol : String) (style : Style) : Canvas :=
  canvas.modify column row fun cell => { cell with symbol := cell.symbol ++ symbol }.restyle style

/-- Changes each cell of an area. -/
def modifyArea (canvas : Canvas) (area : Area) (change : Cell → Cell) : Canvas :=
  (List.range' area.y area.height).foldl
    (fun canvas row =>
      (List.range' area.x area.width).foldl
        (fun canvas column => canvas.modify column row change) canvas)
    canvas

/-- Lays a style over an area. -/
def restyle (canvas : Canvas) (area : Area) (style : Style) : Canvas :=
  canvas.modifyArea area fun cell => cell.restyle style

/-- Makes the cells of an area blank. -/
def clear (canvas : Canvas) (area : Area) : Canvas := canvas.modifyArea area fun _ => {}

/-- Puts pieces of text into a row, one after the other from a column on. -/
def putGlyphs (canvas : Canvas) (column row : Nat) : List Glyph → Canvas
  | [] => canvas
  | glyph :: rest =>
      if glyph.width = 0 then canvas.putGlyphs column row rest
      else
        (canvas.put column row glyph.symbol glyph.style).putGlyphs (column + glyph.width) row rest

/-- What is to be seen of some cells after a cell: one that a wide cell covers stays blank. -/
def uncovered : Cell → List Cell → List Cell
  | _, [] => []
  | before, cell :: rest => (if before.isWide then {} else cell) :: uncovered cell rest

/-- What is to be seen of a row.  The cells of a screen follow each other without a break, so a
wide cell at the end of a row covers the first one of the next row. -/
def row (canvas : Canvas) (row : Nat) : List Cell :=
  let start := row * canvas.width
  let before := if start = 0 then {} else canvas.cells.getD (start - 1) {}
  uncovered before (canvas.cells.extract start (start + canvas.width)).toList

/-- The text of a row. -/
def rowText (canvas : Canvas) (row : Nat) : String :=
  String.join ((canvas.row row).map Cell.symbol)

/-- Counts cells of one style as long as they follow each other. -/
def styleRuns : List Cell → List (Nat × String)
  | [] => []
  | cell :: rest =>
      match styleRuns rest with
      | (count, text) :: runs =>
          if text = cell.styleText then (count + 1, text) :: runs
          else (1, cell.styleText) :: (count, text) :: runs
      | [] => [(1, cell.styleText)]

/-- The styles of a row, each with the number of cells it runs over. -/
def rowStyles (canvas : Canvas) (row : Nat) : List (Nat × String) := styleRuns (canvas.row row)

end Canvas

end TracePlayer
