/-
**The lines that a program reads.**

The input of a program is cut into lines as a source text is, where a newline at the end opens one
more line.  A file of lines ends with a newline, so behind its lines the program reads an empty one
that is not there, instead of the end of its input.  An empty file alone is spared, and a file whose
last line has no end.

Main results:

* `RunRequest.stdinLines_ofInput`: the lines of an input that is not empty are those of its text;
* `RunRequest.reads_written`: **a program reads the lines of a file, and one empty line too many
  unless the file is empty or its last line lacks its end**.
-/
import TracePlayer.Interpreter.Message
import TracePlayer.Proofs.Text.Breaks

set_option autoImplicit false

namespace TracePlayer

open Lines

namespace RunRequest

theorem stdinLines_ofInput (source : String) {stdin : String} (h : stdin ≠ "") :
    (ofInput source stdin).stdinLines = split stdin := by
  rw [ofInput, String.isEmpty_eq_false_iff.2 h]
  rfl

/-- **What a program reads of lines that are written with their ends**, newlines alone or with
carriage returns before them, in any mixture: the lines, and behind them an empty one unless there
are none.  So the very lines are read only if there are none, or if the last one lacks its end; the
output of a program, where every line has to end, is cut into the very lines. -/
theorem reads_written (source : String) (lines : List (String × LineEnd))
    (h : ∀ line ∈ lines, IsLine line.1) :
    (ofInput source (written lines)).stdinLines =
        lines.map Prod.fst ++ (if lines.isEmpty then [] else [""]) ∧
      ((ofInput source (written lines)).stdinLines = lines.map Prod.fst ↔ lines = []) ∧
      (∀ last, IsLine last → written lines ++ last ≠ "" →
        (ofInput source (written lines ++ last)).stdinLines = lines.map Prod.fst ++ [last]) ∧
      terminated (written lines) = lines.map Prod.fst := by
  have hreads : (ofInput source (written lines)).stdinLines =
      lines.map Prod.fst ++ (if lines.isEmpty then [] else [""]) := by
    cases hlines : lines with
    | nil => rfl
    | cons line rest =>
        have hempty : IsLine "" := by decide
        rw [← hlines, stdinLines_ofInput source (written_ne_empty (by simp [hlines])),
          ← String.append_empty (s := written lines), split_written_append h hempty, hlines]
        rfl
  refine ⟨hreads, ?_, fun last hlast hne => ?_, terminated_written h⟩
  · rw [hreads, List.append_right_eq_self]
    cases lines <;> simp
  · rw [stdinLines_ofInput source hne, split_written_append h hlast]

/-- A file of two lines, the second of which ends with a carriage return too: the program reads a
third one, and the end of its input only behind that. -/
theorem reads_written_twoLines :
    (∀ line ∈ [("3", LineEnd.newline), ("4", .returnNewline)], IsLine line.1) ∧
      written [("3", .newline), ("4", .returnNewline)] = "3\n4\r\n" ∧
      (ofInput "print(input())" (written [("3", .newline), ("4", .returnNewline)])).stdinLines =
        ["3", "4", ""] :=
  ⟨by decide, by decide,
    (reads_written "print(input())" [("3", .newline), ("4", .returnNewline)] (by decide)).1⟩

/-- A file of one line is not read as that line. -/
theorem stdinLines_oneLine :
    IsLine "a" ∧ written [("a", .newline)] = "a\n" ∧
      (ofInput "x" (written [("a", .newline)])).stdinLines ≠ ["a"] := by
  decide

end RunRequest

end TracePlayer
