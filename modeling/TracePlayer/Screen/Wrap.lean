/-
**Lines that fit.**

Main definitions:

* `truncateGlyphs`: the front of a line that fits into a width;
* `wrapGlyphs`: a line broken at blanks into lines that fit.
-/
import TracePlayer.Screen.Style
import TracePlayer.Text.Blank

set_option autoImplicit false

namespace TracePlayer

/-- The front of a line that fits into a width; pieces wider than that are left out. -/
def truncateGlyphs (width : Nat) : List Glyph → List Glyph
  | [] => []
  | glyph :: rest => go 0 (glyph :: rest)
where
  /-- The front of a line after `used` cells. -/
  go (used : Nat) : List Glyph → List Glyph
    | [] => []
    | glyph :: rest =>
        if width < glyph.width then go used rest
        else if width < used + glyph.width then []
        else glyph :: go (used + glyph.width) rest

/-- Whether a line may be broken at a piece: it is white space, but not of the kind that holds its
neighbours together. -/
def Glyph.isBlank (glyph : Glyph) : Bool :=
  glyph.symbol == "\u200b"
    || (glyph.symbol.toList.all isBlankChar && glyph.symbol != "\u00a0")

/-- A line while it is broken: what has been settled of the current line, and the blanks and the
word after it that may still move to the next one. -/
structure Wrapping where
  /-- The lines that are done. -/
  done : List (List Glyph) := []
  /-- What has been settled of the current line. -/
  line : List Glyph := []
  /-- The blanks after it. -/
  blanks : List Glyph := []
  /-- The word after the blanks. -/
  word : List Glyph := []
  /-- Whether the piece before was part of a word. -/
  inWord : Bool := false

namespace Wrapping

/-- The number of cells of some pieces. -/
def cellsOf (glyphs : List Glyph) : Nat := glyphs.foldr (fun glyph cells => glyph.width + cells) 0

/-- Settles the blanks and the word; when trimming, blanks at the front of a line are dropped. -/
def settle (trim : Bool) (state : Wrapping) : Wrapping :=
  let blanks := if state.line.isEmpty && trim then [] else state.blanks
  { state with line := state.line ++ blanks ++ state.word, blanks := [], word := [] }

/-- Whether blanks and word have to be settled before a piece: a word ends, or they fill a line of
their own. -/
def mustSettle (width : Nat) (trim : Bool) (state : Wrapping) (glyph : Glyph) : Bool :=
  (state.inWord && glyph.isBlank)
    || (state.line.isEmpty
      && (if trim then
            decide (width < cellsOf state.word + glyph.width)
              || decide (width < cellsOf state.blanks + glyph.width)
          else decide (width < cellsOf state.word + cellsOf state.blanks + glyph.width)))

/-- The blanks that are left when the ones up to the end of the line are dropped. -/
def dropBlanks (room : Nat) : List Glyph → List Glyph
  | [] => []
  | glyph :: rest =>
      if glyph.width ≤ room then dropBlanks (room - glyph.width) rest else glyph :: rest

/-- Whether the current line is done before a piece: it is full, or the piece would pass its
end. -/
def mustBreak (width : Nat) (state : Wrapping) (glyph : Glyph) : Bool :=
  decide (width ≤ cellsOf state.line)
    || (decide (0 < glyph.width)
      && decide (width ≤ cellsOf state.line + cellsOf state.blanks + cellsOf state.word))

/-- Ends the current line; blanks up to its end are dropped. -/
def breakLine (width : Nat) (state : Wrapping) : Wrapping :=
  { state with
    done := state.done ++ [state.line]
    line := []
    blanks := dropBlanks (width - cellsOf state.line) state.blanks }

/-- Adds a piece to the blanks or to the word. -/
def push (state : Wrapping) (glyph : Glyph) : Wrapping :=
  if glyph.isBlank then { state with blanks := state.blanks ++ [glyph], inWord := false }
  else { state with word := state.word ++ [glyph], inWord := true }

/-- Takes the next piece of the line. -/
def step (width : Nat) (trim : Bool) (state : Wrapping) (glyph : Glyph) : Wrapping :=
  if width < glyph.width then state
  else
    let state := if state.mustSettle width trim glyph then state.settle trim else state
    if state.mustBreak width glyph then
      let state := state.breakLine width
      if glyph.isBlank && state.blanks.isEmpty then state else state.push glyph
    else state.push glyph

/-- The lines, once all pieces have been taken; there is at least one. -/
def finish (trim : Bool) (state : Wrapping) : List (List Glyph) :=
  let onlyBlanks := state.line.isEmpty && state.word.isEmpty && !state.blanks.isEmpty
  let settled := state.settle trim
  let lines := state.done ++ (if onlyBlanks then [[]] else [])
    ++ (if settled.line.isEmpty then [] else [settled.line])
  if lines.isEmpty then [[]] else lines

end Wrapping

/-- A line broken at blanks into lines of at most `width` cells.  Words are kept whole as long as
they fit; when trimming, no line begins with blanks. -/
def wrapGlyphs (width : Nat) (trim : Bool) (glyphs : List Glyph) : List (List Glyph) :=
  if width = 0 then []
  else (glyphs.foldl (Wrapping.step width trim) {}).finish trim

end TracePlayer
