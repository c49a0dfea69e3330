/-
**Texts of a given width.**

Main definitions:

* `padLeft`, `padRight`: blanks before or after a text that is shorter than a width;
* `trimNewlines`: a text without the newlines at its end.
-/

set_option autoImplicit false

namespace TracePlayer

/-- A number of blanks. -/
def blanks (count : Nat) : String := String.ofList (List.replicate count ' ')

/-- A text with blanks before it, up to a width counted in characters. -/
def padLeft (width : Nat) (text : String) : String := blanks (width - text.length) ++ text

/-- A text with blanks after it, up to a width counted in characters. -/
def padRight (width : Nat) (text : String) : String := text ++ blanks (width - text.length)

/-- A text without the newlines at its end. -/
def trimNewlines (text : String) : String :=
  String.ofList (text.toList.reverse.dropWhile (· == '\n')).reverse

end TracePlayer
