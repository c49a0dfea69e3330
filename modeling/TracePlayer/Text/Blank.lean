/-
**Blank characters.**

Main definitions:

* `isBlankChar`: whether a character is white space;
* `trimBlanks`: a text without the white space at its two ends.
-/
import TracePlayer.Text.CharRanges

set_option autoImplicit false

namespace TracePlayer

/-- The ranges of code points that are white space. -/
def blankRanges : List (Nat × Nat) :=
  [(0x9, 0xD), (0x20, 0x20), (0x85, 0x85), (0xA0, 0xA0), (0x1680, 0x1680), (0x2000, 0x200A),
   (0x2028, 0x2029), (0x202F, 0x202F), (0x205F, 0x205F), (0x3000, 0x3000)]

/-- Whether a character is white space. -/
def isBlankChar (c : Char) : Bool := inRanges blankRanges c

/-- A text without the white space at its two ends. -/
def trimBlanks (text : String) : String :=
  let front := text.toList.dropWhile isBlankChar
  String.ofList (front.reverse.dropWhile isBlankChar).reverse

end TracePlayer
