/-
**Boxes, paragraphs and tables.**

Main definitions:

* `Canvas.box`, `Area.inside`: a border with a title, and the area inside it;
* `Canvas.rule`: a line along the upper edge of an area;
* `Canvas.paragraph`, `Canvas.wrapped`: lines cut at the width of an area, or broken to fit it;
* `Canvas.table`: two columns under a header.
-/
import TracePlayer.Screen.Canvas
import TracePlayer.Screen.Wrap

set_option autoImplicit false

namespace TracePlayer

/-- The area inside a border. -/
def Area.inside (area : Area) : Area where
  x := Nat.min (area.x + 1) (area.x + area.width)
  y := Nat.min (area.y + 1) (area.y + area.height)
  width := area.width - 2
  height := area.height - 2

/-- The area below its first row. -/
def Area.belowFirstRow (area : Area) : Area :=
  { area with
    y := Nat.min (area.y + 1) (area.y + area.height)
    height := area.height - 1 }

/-- Whether an area has no cells. -/
def Area.isEmpty (area : Area) : Bool := area.width == 0 || area.height == 0

namespace Canvas

/-! ### Borders -/

/-- Puts one symbol into each cell of an area. -/
def fill (canvas : Canvas) (area : Area) (symbol : String) : Canvas :=
  canvas.modifyArea area fun cell => { cell with symbol := symbol }

/-- Puts the front of a text that fits into the first row of an area.  A piece without a cell of its
own shares the cell before it, and a piece over two cells clears the second. -/
def putSpan (canvas : Canvas) (area : Area) (span : Span) : Canvas :=
  go true area.x (span.glyphs {}) canvas
where
  /-- Puts the pieces from a column on; the first one takes the cell even if it has no width. -/
  go (first : Bool) (column : Nat) : List Glyph → Canvas → Canvas
    | [], canvas => canvas
    | glyph :: rest, canvas =>
        let next := column + glyph.width
        if area.x + area.width < next then canvas
        else
          let canvas :=
            if first then canvas.put column area.y glyph.symbol glyph.style
            else if column = area.x then canvas.extend column area.y glyph.symbol glyph.style
            else if glyph.width = 0 then canvas.extend (column - 1) area.y glyph.symbol glyph.style
            else canvas.put column area.y glyph.symbol glyph.style
          go false next rest (canvas.clear ⟨column + 1, area.y, glyph.width - 1, 1⟩)

/-- Puts the front of some texts that fits into the first row of an area, one after the other.  A
text without a cell of its own is left out. -/
def putSpans (canvas : Canvas) (area : Area) : List Span → Canvas
  | [] => canvas
  | span :: rest =>
      if area.isEmpty then canvas
      else if span.width = 0 then canvas.putSpans area rest
      else
        (canvas.putSpan area span).putSpans
          { area with x := area.x + span.width, width := area.width - span.width } rest

/-- A border with a title on its upper edge, after the left corner; the title gets the cells of its
line and no more. -/
def box (canvas : Canvas) (area : Area) (title : String) : Canvas :=
  let area := canvas.clip area
  if area.isEmpty then canvas
  else
    let right := area.x + area.width - 1
    let bottom := area.y + area.height - 1
    let canvas := canvas.fill { area with width := 1 } "│"
    let canvas := canvas.fill { area with height := 1 } "─"
    let canvas := canvas.fill { area with x := right, width := 1 } "│"
    let canvas := canvas.fill { area with y := area.y, height := 1 } "─"
    let canvas := canvas.fill { area with y := bottom, height := 1 } "─"
    let canvas := canvas.fill ⟨right, bottom, 1, 1⟩ "┘"
    let canvas := canvas.fill ⟨right, area.y, 1, 1⟩ "┐"
    let canvas := canvas.fill ⟨area.x, bottom, 1, 1⟩ "└"
    let canvas := canvas.fill ⟨area.x, area.y, 1, 1⟩ "┌"
    let line := Line.plain (" " ++ title ++ " ") {}
    canvas.putSpans ⟨area.x + 1, area.y, Nat.min line.width (area.width - 2), 1⟩ line.spans

/-- A line along the upper edge of an area. -/
def rule (canvas : Canvas) (area : Area) : Canvas :=
  let area := canvas.clip area
  if area.isEmpty then canvas else canvas.fill { area with height := 1 } "─"

/-! ### Paragraphs -/

/-- Puts lines of pieces into an area, one in each row. -/
def putRows (canvas : Canvas) (area : Area) (rows : List (List Glyph)) : Canvas :=
  ((rows.take area.height).zipIdx).foldl
    (fun canvas (glyphs, index) => canvas.putGlyphs area.x (area.y + index) glyphs) canvas

/-- Lines cut at the width of an area. -/
def paragraph (canvas : Canvas) (area : Area) (lines : List Line) : Canvas :=
  let area := canvas.clip area
  if area.isEmpty then canvas
  else canvas.putRows area (lines.map fun line => truncateGlyphs area.width (line.glyphs {}))

/-- Lines broken to fit the width of an area. -/
def wrapped (canvas : Canvas) (area : Area) (trim : Bool) (lines : List Line) : Canvas :=
  let area := canvas.clip area
  if area.isEmpty then canvas
  else canvas.putRows area (lines.flatMap fun line => wrapGlyphs area.width trim (line.glyphs {}))

/-! ### Tables -/

/-- The width of the first of two columns in a table: three tenths of the whole, a half rounded
up. -/
def firstColumnWidth (width : Nat) : Nat := (3 * width + 5) / 10

/-- Puts two texts into a row of a table. -/
def tableRow (canvas : Canvas) (area : Area) (row : Nat) (cells : Span × Span) : Canvas :=
  let first := firstColumnWidth area.width
  let canvas := canvas.putSpans ⟨area.x, row, first, 1⟩ [cells.1]
  canvas.putSpans ⟨area.x + first + 1, row, area.width - first - 1, 1⟩ [cells.2]

/-- Two columns under a header, as far as they fit. -/
def table (canvas : Canvas) (area : Area) (header : Span × Span) (headerStyle : Style)
    (rows : List (Span × Span)) : Canvas :=
  let area := canvas.clip area
  if area.isEmpty then canvas
  else
    let canvas := canvas.restyle { area with height := 1 } headerStyle
    let canvas := canvas.tableRow area area.y header
    ((rows.take (area.height - 1)).zipIdx).foldl
      (fun canvas (cells, index) => canvas.tableRow area (area.y + 1 + index) cells) canvas

end Canvas

end TracePlayer
