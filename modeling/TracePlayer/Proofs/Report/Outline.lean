/-
**The outline and the call tree on the screen.**

A state is shown as a tree in two places: in an outline, line by line and straight from its frames,
and on the screen, as rows that are made for the view and put together from styled texts.  What is
written for a frame is worded three times, for the outline, for the label of a row and for the texts
of its line.  All three come to the same text, and no frame is left out anywhere.

Main definitions:

* `TreeRow.text`: a row with two blanks for each level.

Main results:

* `TreeRow.text_line`: the texts of a line on the screen are the row;
* `Frame.outline_eq`: so is the line of a frame in the outline, with its newline;
* `State.outline_eq_join`: the outline of a state is the rows of its tree;
* `Log.outline_eq_view`: **the outline of a log is the call tree of the view at the same step**.
-/
import TracePlayer.Proofs.Timeline.Moves
import TracePlayer.Proofs.Viewer.Spotlight
import TracePlayer.Report.Outline
import TracePlayer.Viewer.Panel

set_option autoImplicit false

namespace TracePlayer

/-! ### One row -/

/-- Two blanks for each level. -/
def indent (level : Nat) : String := String.join (List.replicate level "  ")

/-- A row of the tree as a line of text. -/
def TreeRow.text (row : TreeRow) : String := indent row.level ++ row.label

theorem blanks_two_mul (level : Nat) : blanks (2 * level) = indent level := by
  induction level with
  | zero => rfl
  | succ level ih =>
      rw [indent, List.replicate_succ, String.join_cons, ← indent, ← ih]
      show String.ofList ([' ', ' '] ++ List.replicate (2 * level) ' ') = _
      rw [String.ofList_append]
      rfl

/-- **The texts of a line on the screen are the row.** -/
theorem TreeRow.text_line (theme : Theme) (row : TreeRow) : (row.line theme).text = row.text := by
  have htail : String.join ((if row.closed then [(⟨row.tail, .colored theme.muted⟩ : Span)]
      else []).map Span.text) = returnNote row.closed row.returnValue := by
    obtain ⟨frame, level, function, closed, value, selected⟩ := row
    cases closed with
    | false => rfl
    | true => cases value <;> rfl
  simp only [Line.text, TreeRow.line, TreeRow.spans, TreeRow.text, TreeRow.label, List.map_append,
    String.join_append, htail, List.map_cons, List.map_nil, String.join_cons, blanks_two_mul,
    String.append_assoc, String.join_nil, String.empty_append]

/-- What has become of a frame is the note on its row. -/
theorem Frame.ending_eq (frame : Frame) :
    frame.ending = returnNote frame.isClosed (frame.returnValue.map Json.compress) := by
  unfold Frame.ending Frame.isClosed Frame.returnValue
  rcases frame.closing with _ | ⟨step, _ | value⟩ <;> rfl

/-- **The line of a frame in the outline is its row**, whether the frame is selected or not. -/
theorem Frame.outline_eq (frame : Frame) (level : Nat) (selected : Option FrameId) :
    frame.outline level = (TreeRow.ofFrame selected level frame).text ++ "\n" := by
  rw [Frame.outline, Frame.ending_eq]
  simp only [TreeRow.text, TreeRow.label, TreeRow.ofFrame, indent, String.append_assoc]

/-! ### All rows -/

/-- **The outline of a state is the rows of its tree**, each with a newline: a visit without a frame
has a line in neither. -/
theorem State.outline_eq_join (state : State) (selected : Option FrameId) :
    state.outline = String.join ((state.treeRows selected).map fun row => row.text ++ "\n") := by
  unfold State.outline State.treeRows
  induction state.forest.walk with
  | nil => rfl
  | cons visit rest ih =>
      rw [List.map_cons, String.join_cons, ih, List.filterMap_cons]
      cases state.frame? visit.frame with
      | none => exact String.empty_append
      | some frame =>
          rw [Option.map_some, List.map_cons, String.join_cons, ← Frame.outline_eq]

/-- A frame that is open, and below it one that returned nothing and one without a value. -/
example : (State.ofPrefix [.plain 0 .call 1, { Event.plain 1 .call 2 with parent := some 1 },
    { Event.plain 2 .ret 2 with returnValue := some .null },
    { Event.plain 3 .call 3 with parent := some 2 }, .plain 4 .ret 3] 5).outline =
      " #1\n   #2 (returned: null)\n     #3 (returned)\n" := by
  decide +kernel

namespace Log

/-- **The outline of a log is the call tree of the view at the same step.**  A step may be missing
or lie outside the log, and the view may be made by a navigator that has answered any requests
before: the outline is the rows of its tree, each with its label behind two blanks for each level,
and there is one for each frame; and the lines of the tree panel are these very texts. -/
theorem outline_eq_view (log : Log) (interval : Nat) (requests : List Navigator.Request)
    (step : Option Int) (cursor : Cursor) (change : Change) (selection : Selection) :
    let nav := (Navigator.ofLog log interval).after requests
    let state := (nav.stateAt (nav.log.stepOrLast step)).1
    let view := View.build nav.log state cursor change selection
    nav.log.outline step =
        String.join (view.tree.map fun row => indent row.level ++ row.label ++ "\n") ∧
      (view.tree.map TreeRow.frame).Perm state.frames.ids ∧
      ∀ theme : Theme, view.tree.map (fun row => (row.line theme).text) =
        view.tree.map fun row => indent row.level ++ row.label := by
  intro nav state view
  have faithful : nav.Faithful := (Navigator.faithful_ofLog log interval).after requests
  have hstate : state = nav.log.stateAt step := (faithful.stateAt _).1
  refine ⟨?_, ?_, ?_⟩
  · rw [Log.outline, ← hstate]
    exact state.outline_eq_join (selection.resolve state)
  · show ((state.treeRows (selection.resolve state)).map TreeRow.frame).Perm _
    rw [hstate, Log.stateAt, State.atStep, State.frame_treeRows]
    exact State.perm_walk _ _
  · intro theme
    exact List.map_congr_left fun row _ => row.text_line theme

end Log

end TracePlayer
