/-
**Colours and styles.**

Main definitions:

* `Color`: a colour of the terminal;
* `Style`, `Style.patch`: what a text asks for, and one style on top of another;
* `Span`, `Line`: texts with their styles.
-/
import TracePlayer.Text.Cluster
import TracePlayer.Text.Lines
import TracePlayer.Text.Width

set_option autoImplicit false

namespace TracePlayer

/-- A colour of the terminal. -/
inductive Color where
  | reset
  | black
  | red
  | green
  | yellow
  | blue
  | magenta
  | cyan
  | gray
  | darkGray
  | lightRed
  | lightGreen
  | lightYellow
  | lightBlue
  | lightMagenta
  | lightCyan
  | white
  | rgb (r g b : Nat)
  deriving DecidableEq, Inhabited

/-- The name of a colour. -/
def Color.name : Color → String
  | reset => "Reset"
  | black => "Black"
  | red => "Red"
  | green => "Green"
  | yellow => "Yellow"
  | blue => "Blue"
  | magenta => "Magenta"
  | cyan => "Cyan"
  | gray => "Gray"
  | darkGray => "DarkGray"
  | lightRed => "LightRed"
  | lightGreen => "LightGreen"
  | lightYellow => "LightYellow"
  | lightBlue => "LightBlue"
  | lightMagenta => "LightMagenta"
  | lightCyan => "LightCyan"
  | white => "White"
  | rgb r g b => "rgb(" ++ toString r ++ "," ++ toString g ++ "," ++ toString b ++ ")"

/-- What a text asks for; a colour that is left open stays as it is. -/
structure Style where
  /-- The colour of the text. -/
  foreground : Option Color := none
  /-- The colour behind the text. -/
  background : Option Color := none
  /-- Whether the text is bold. -/
  bold : Bool := false
  deriving DecidableEq, Inhabited

namespace Style

/-- Only a colour of the text. -/
def colored (color : Color) : Style := { foreground := some color }

/-- One style on top of another: what it asks for wins. -/
def patch (below above : Style) : Style where
  foreground := above.foreground.or below.foreground
  background := above.background.or below.background
  bold := below.bold || above.bold

end Style

/-- A text in one style. -/
structure Span where
  /-- The text. -/
  text : String
  /-- The style. -/
  style : Style := {}
  deriving DecidableEq

/-- A line of texts. -/
structure Line where
  /-- The texts, from left to right. -/
  spans : List Span
  /-- The style below the styles of the texts. -/
  style : Style := {}
  deriving DecidableEq

/-- A piece of text that shares a cell, in its style. -/
structure Glyph where
  /-- The piece. -/
  symbol : String
  /-- The style. -/
  style : Style
  deriving DecidableEq

/-- The number of cells of a piece. -/
def Glyph.width (glyph : Glyph) : Nat := textWidth glyph.symbol

namespace Span

/-- The number of cells of a text as a whole, which may be less than those of its pieces. -/
def width (span : Span) : Nat := textWidth span.text

/-- The pieces of a text; newlines are left out. -/
def glyphs (span : Span) (below : Style) : List Glyph :=
  ((clusters span.text).filter fun symbol => symbol != "\n").map fun symbol =>
    ⟨symbol, below.patch span.style⟩

end Span

namespace Line

/-- A text in one style; where it has several lines, they follow each other in one. -/
def plain (text : String) (style : Style) : Line :=
  ⟨(Lines.terminated text).map fun piece => ⟨piece, {}⟩, style⟩

/-- The text of a line. -/
def text (line : Line) : String := String.join (line.spans.map Span.text)

/-- The number of cells of a line. -/
def width (line : Line) : Nat := line.spans.foldr (fun span cells => span.width + cells) 0

/-- The pieces of a line. -/
def glyphs (line : Line) (below : Style) : List Glyph :=
  line.spans.flatMap fun span => span.glyphs (below.patch line.style)

end Line

end TracePlayer
