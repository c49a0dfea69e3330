/-
**Lines of a text.**

Main definitions:

* `splitAtNewlines`: the pieces between the newlines of a text;
* `Lines.split`: the lines of a text, where a carriage return before the newline belongs to the
  line break;
* `Lines.terminated`: the lines of a text in which every line ends with a newline.
-/

set_option autoImplicit false

namespace TracePlayer

/-- The pieces between newlines; there is always one more piece than there are newlines. -/
def splitAtNewlines : List Char → List (List Char)
  | [] => [[]]
  | c :: rest =>
      if c = '\n' then [] :: splitAtNewlines rest
      else match splitAtNewlines rest with
        | [] => [[c]]
        | piece :: pieces => (c :: piece) :: pieces

/-- A piece without the carriage return at its end, if it has one. -/
def dropFinalReturn : List Char → List Char
  | [] => []
  | [c] => if c = '\r' then [] else [c]
  | c :: rest => c :: dropFinalReturn rest

/-- The lines of a text.  A newline at the end opens one further, empty line. -/
def Lines.split (text : String) : List String :=
  (splitAtNewlines text.toList).map fun piece => String.ofList (dropFinalReturn piece)

/-- The lines of a text in which every line ends with a newline, which the last one may lack.  A
carriage return before a newline belongs to the line break. -/
def Lines.terminated (text : String) : List String :=
  let pieces := splitAtNewlines text.toList
  let complete := pieces.dropLast.map fun piece => String.ofList (dropFinalReturn piece)
  match pieces.getLast? with
  | none | some [] => complete
  | some last => complete ++ [String.ofList last]

theorem splitAtNewlines_ne_nil (cs : List Char) : splitAtNewlines cs ≠ [] := by
  cases cs with
  | nil => simp [splitAtNewlines]
  | cons c rest =>
      simp only [splitAtNewlines]
      split
      · simp
      · split <;> simp

end TracePlayer
