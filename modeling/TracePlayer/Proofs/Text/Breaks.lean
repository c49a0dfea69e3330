/-
**Where the lines of a text end.**

A text is cut at its newlines, and every piece loses a carriage return at its end.  Seen the other
way round, all line breaks are made single newlines first, and the text is cut then.  The two differ
in one place: behind the last piece there is no newline, so a carriage return at the very end of a
text belongs to no line break, and it is lost all the same.

Main definitions:

* `Lines.unified`: a text with a single newline for each line break;
* `Lines.Divide`: **lines into which a text divides**;
* `Lines.written`: lines as a text, each with its end.

Main results:

* `splitAtNewlines_eq_splitOn`: the pieces between newlines are the ones that a newline separates;
* `Lines.intercalate_dropFinalReturn`: joined again without their final carriage returns, the pieces
  are the unified text;
* `Lines.divide_split`: **a text divides into its lines unless it ends with a carriage return**;
* `Lines.split_written_append`, `Lines.terminated_written`: lines that are written with their ends
  are found again.
-/
import TracePlayer.Text.Lines

set_option autoImplicit false

namespace TracePlayer

/-! ### The carriage return at the end -/

section FinalReturn

variable {piece rest : List Char}

theorem dropFinalReturn_append (h : rest ≠ []) :
    dropFinalReturn (piece ++ rest) = piece ++ dropFinalReturn rest := by
  induction piece with
  | nil => rfl
  | cons c piece ih =>
      have hne : piece ++ rest ≠ [] := List.append_ne_nil_of_right_ne_nil piece h
      rw [List.cons_append, dropFinalReturn.eq_3 c _ hne, ih, List.cons_append]

theorem dropFinalReturn_concat (piece : List Char) : dropFinalReturn (piece ++ ['\r']) = piece :=
  (dropFinalReturn_append (List.cons_ne_nil _ _)).trans (List.append_nil piece)

theorem dropFinalReturn_newline :
    dropFinalReturn ('\n' :: rest) = '\n' :: dropFinalReturn rest := by
  cases rest <;> rfl

theorem dropFinalReturn_of_getLast? (h : piece.getLast? ≠ some '\r') :
    dropFinalReturn piece = piece := by
  rcases List.eq_nil_or_concat piece with rfl | ⟨front, c, rfl⟩
  · rfl
  · rw [List.concat_eq_append] at h ⊢
    rw [List.getLast?_concat] at h
    have hc : c ≠ '\r' := fun hc => h (congrArg some hc)
    rw [dropFinalReturn_append (List.cons_ne_nil _ _), dropFinalReturn, if_neg hc]

/-- A text that ends with a carriage return is what it loses that comes back. -/
theorem dropFinalReturn_append_of_getLast? (h : piece.getLast? = some '\r') :
    dropFinalReturn piece ++ ['\r'] = piece := by
  obtain ⟨front, rfl⟩ := List.getLast?_eq_some_iff.1 h
  rw [dropFinalReturn_concat]

theorem mem_of_mem_dropFinalReturn {c : Char} (h : c ∈ dropFinalReturn piece) : c ∈ piece := by
  by_cases hlast : piece.getLast? = some '\r'
  · rw [← dropFinalReturn_append_of_getLast? hlast]
    exact List.mem_append_left _ h
  · rwa [dropFinalReturn_of_getLast? hlast] at h

end FinalReturn

/-! ### Pieces between newlines -/

section Pieces

variable {piece rest : List Char}

/-- The pieces between newlines are the ones that a newline separates. -/
theorem splitAtNewlines_eq_splitOn (text : List Char) :
    splitAtNewlines text = text.splitOn '\n' := by
  induction text with
  | nil => rfl
  | cons c rest ih =>
      rw [List.splitOn, List.splitOnP_cons_eq_if_modifyHead, ← List.splitOn, ← ih,
        splitAtNewlines]
      by_cases hc : c = '\n'
      · rw [if_pos hc, if_pos (beq_iff_eq.2 hc)]
      · rw [if_neg hc, if_neg (mt beq_iff_eq.1 hc)]
        cases hpieces : splitAtNewlines rest with
        | nil => exact absurd hpieces (splitAtNewlines_ne_nil rest)
        | cons piece pieces => rfl

theorem splitAtNewlines_append (h : '\n' ∉ piece) :
    splitAtNewlines (piece ++ '\n' :: rest) = piece :: splitAtNewlines rest := by
  induction piece with
  | nil => rfl
  | cons c piece ih =>
      rw [List.mem_cons, not_or] at h
      rw [List.cons_append, splitAtNewlines, if_neg (Ne.symm h.1), ih h.2]

theorem splitAtNewlines_of_notMem (h : '\n' ∉ piece) : splitAtNewlines piece = [piece] :=
  (splitAtNewlines_eq_splitOn piece).trans (List.splitOn_eq_singleton h)

/-- **Pieces that each end with a newline are found again**, and behind them what comes last. -/
theorem splitAtNewlines_join_append {pieces : List String} {last : List Char}
    (h : ∀ piece ∈ pieces, '\n' ∉ piece.toList) (hlast : '\n' ∉ last) :
    splitAtNewlines ((String.join (pieces.map (· ++ "\n"))).toList ++ last) =
      pieces.map String.toList ++ [last] := by
  induction pieces with
  | nil => exact splitAtNewlines_of_notMem hlast
  | cons piece pieces ih =>
      rw [List.forall_mem_cons] at h
      have htext : (String.join ((piece :: pieces).map (· ++ "\n"))).toList ++ last =
          piece.toList ++ '\n' :: ((String.join (pieces.map (· ++ "\n"))).toList ++ last) := by
        rw [List.map_cons, String.join_cons, String.toList_append, String.toList_append,
          List.append_assoc, List.append_assoc]
        rfl
      rw [htext, splitAtNewlines_append h.1, ih h.2]
      rfl

theorem notMem_of_mem_splitAtNewlines {text : List Char} (h : piece ∈ splitAtNewlines text) :
    '\n' ∉ piece := by
  fun_induction splitAtNewlines text generalizing piece with
  | case1 =>
      obtain rfl := List.mem_singleton.1 h
      exact List.not_mem_nil
  | case2 rest ih =>
      rcases List.mem_cons.1 h with rfl | h
      · exact List.not_mem_nil
      · exact ih h
  | case3 c rest _ hpieces => exact absurd hpieces (splitAtNewlines_ne_nil rest)
  | case4 c rest hc first pieces hpieces ih =>
      rcases List.mem_cons.1 h with rfl | h
      · exact List.not_mem_cons_of_ne_of_not_mem (Ne.symm hc) (ih (hpieces ▸ List.mem_cons_self))
      · exact ih (hpieces ▸ List.mem_cons_of_mem first h)

end Pieces

namespace Lines

/-! ### One kind of line break -/

/-- A text with a single newline for each line break: a carriage return before a newline is left
out. -/
def unified : List Char → List Char
  | [] => []
  | '\r' :: '\n' :: rest => '\n' :: unified rest
  | c :: rest => c :: unified rest

section Unified

variable {piece rest before after : List Char} {pieces : List (List Char)}

theorem unified_cons {c : Char} (h : c ≠ '\r' ∨ rest.head? ≠ some '\n') :
    unified (c :: rest) = c :: unified rest := by
  refine unified.eq_3 c rest fun after hc hrest => ?_
  subst hc hrest
  exact h.elim (fun h => h rfl) fun h => h rfl

/-- A text is unified piece by piece: before a newline a piece loses its final carriage return. -/
theorem unified_append_newline (h : '\n' ∉ piece) :
    unified (piece ++ '\n' :: rest) = dropFinalReturn piece ++ '\n' :: unified rest := by
  fun_induction dropFinalReturn piece with
  | case1 => exact unified_cons (.inl (by decide))
  | case2 => rfl
  | case3 c hc =>
      have hnewline : unified ('\n' :: rest) = '\n' :: unified rest :=
        unified_cons (.inl (by decide))
      exact (unified_cons (.inl hc)).trans (congrArg (c :: ·) hnewline)
  | case4 c piece hne ih =>
      obtain ⟨-, hpiece⟩ := not_or.1 (mt List.mem_cons.2 h)
      obtain ⟨d, piece, rfl⟩ := List.exists_cons_of_ne_nil hne
      have hhead : (d :: piece ++ '\n' :: rest).head? ≠ some '\n' := fun head =>
        hpiece (Option.some.inj head ▸ List.mem_cons_self)
      rw [List.cons_append, unified_cons (.inr hhead), ih hpiece, List.cons_append]

theorem unified_of_notMem (h : '\n' ∉ piece) : unified piece = piece := by
  fun_induction unified piece with
  | case1 => rfl
  | case2 rest => simp at h
  | case3 c rest _ ih => rw [ih fun hmem => h (List.mem_cons_of_mem c hmem)]

/-- A carriage return stays if no newline follows it. -/
theorem unified_append_return (h : after.head? ≠ some '\n') :
    unified (before ++ '\r' :: after) = unified before ++ '\r' :: unified after := by
  fun_induction unified before with
  | case1 => exact unified_cons (.inr h)
  | case2 before ih => exact congrArg ('\n' :: ·) ih
  | case3 c before hpair ih =>
      have hhead : c ≠ '\r' ∨ (before ++ '\r' :: after).head? ≠ some '\n' := by
        rcases before with _ | ⟨d, before⟩
        · exact .inr (by simp)
        · refine Decidable.or_iff_not_imp_left.2 fun hc head => ?_
          obtain rfl : d = '\n' := Option.some.inj head
          exact hpair before (Decidable.not_not.1 hc) rfl
      rw [List.cons_append, unified_cons hhead, ih, List.cons_append]

/-- **Joined again without their final carriage returns, the pieces are the unified text**, which
has lost a carriage return at its end with them. -/
theorem intercalate_dropFinalReturn (hne : pieces ≠ []) (h : ∀ piece ∈ pieces, '\n' ∉ piece) :
    ['\n'].intercalate (pieces.map dropFinalReturn) =
      unified (dropFinalReturn (['\n'].intercalate pieces)) := by
  induction pieces with
  | nil => exact absurd rfl hne
  | cons piece pieces ih =>
      obtain ⟨hpiece, hpieces⟩ := List.forall_mem_cons.1 h
      cases pieces with
      | nil =>
          have hmem : '\n' ∉ dropFinalReturn piece := mt mem_of_mem_dropFinalReturn hpiece
          rw [List.map_singleton, List.intercalate_singleton, List.intercalate_singleton,
            unified_of_notMem hmem]
      | cons next pieces =>
          have ih := ih (List.cons_ne_nil _ _) hpieces
          rw [List.map_cons] at ih
          rw [List.map_cons, List.map_cons, List.intercalate_cons_cons,
            List.intercalate_cons_cons, ih, List.append_assoc, List.append_assoc,
            List.singleton_append, List.singleton_append,
            dropFinalReturn_append (List.cons_ne_nil _ _), dropFinalReturn_newline,
            unified_append_newline hpiece]

end Unified

/-! ### The lines of a text -/

/-- **Lines into which a text divides.** -/
structure Divide (text : List Char) (lines : List String) : Prop where
  /-- They are what stands between the newlines of the text, all line breaks being single ones. -/
  pieces : lines.map String.toList = (unified text).splitOn '\n'
  /-- No line holds a newline. -/
  unbroken : ∀ line ∈ lines, '\n' ∉ line.toList
  /-- Joined again, they are the text with its line breaks unified. -/
  joined : ("\n".intercalate lines).toList = unified text
  /-- A carriage return that no newline follows is kept. -/
  kept : ∀ before after, text = before ++ '\r' :: after → after.head? ≠ some '\n' →
    ("\n".intercalate lines).toList = unified before ++ '\r' :: unified after

theorem divide_of_pieces {text : List Char} {lines : List String}
    (pieces : lines.map String.toList = (unified text).splitOn '\n') : Divide text lines := by
  have joined : ("\n".intercalate lines).toList = unified text := by
    rw [String.toList_intercalate, pieces]
    exact List.intercalate_splitOn '\n'
  refine ⟨pieces, fun line hline => ?_, joined, ?_⟩
  · rw [← splitAtNewlines_eq_splitOn] at pieces
    exact notMem_of_mem_splitAtNewlines (pieces ▸ List.mem_map_of_mem hline)
  · rintro before after rfl hafter
    rw [joined, unified_append_return hafter]

theorem toList_split (text : String) :
    (split text).map String.toList = (splitAtNewlines text.toList).map dropFinalReturn := by
  rw [split, List.map_map]
  exact List.map_congr_left fun _ _ => String.toList_ofList

/-- What is before a carriage return at the end of a text divides into its lines. -/
theorem divide_dropFinalReturn (text : String) :
    Divide (dropFinalReturn text.toList) (split text) := by
  have hne := splitAtNewlines_ne_nil text.toList
  have hnotMem : ∀ piece ∈ splitAtNewlines text.toList, '\n' ∉ piece :=
    fun piece => notMem_of_mem_splitAtNewlines
  have hjoined := intercalate_dropFinalReturn hne hnotMem
  have hpieces : ∀ piece ∈ (splitAtNewlines text.toList).map dropFinalReturn, '\n' ∉ piece := by
    rintro _ hmem
    obtain ⟨piece, hpiece, rfl⟩ := List.mem_map.1 hmem
    exact mt mem_of_mem_dropFinalReturn (hnotMem piece hpiece)
  rw [splitAtNewlines_eq_splitOn, List.intercalate_splitOn, ← splitAtNewlines_eq_splitOn] at hjoined
  refine divide_of_pieces ?_
  rw [toList_split, ← hjoined, List.splitOn_intercalate '\n' hpieces (by simpa using hne)]

/-- **A text divides into its lines unless it ends with a carriage return.**  It is lost there, and
the text before it divides into the lines. -/
theorem divide_split (text : String) :
    (Divide text.toList (split text) ↔ text.toList.getLast? ≠ some '\r') ∧
      Divide (dropFinalReturn text.toList) (split text) := by
  have divide := divide_dropFinalReturn text
  refine ⟨⟨fun whole hlast => ?_, fun hlast => ?_⟩, divide⟩
  · obtain ⟨before, hbefore⟩ := List.getLast?_eq_some_iff.1 hlast
    have hkept := whole.kept before [] hbefore (by simp)
    rw [divide.joined, hbefore, dropFinalReturn_concat] at hkept
    simp [unified] at hkept
  · rwa [dropFinalReturn_of_getLast? hlast] at divide

/-- A carriage return behind which the text ends is no line break, and yet it is lost. -/
theorem not_divide_split_finalReturn : ¬Divide ['a', '\r'] (split "a\r") := by
  intro divide
  have hjoined := divide.joined
  revert hjoined
  decide

/-! ### Lines with their ends -/

/-- A text that can be a line: it holds no newline and does not end with a carriage return. -/
structure IsLine (text : String) : Prop where
  unbroken : '\n' ∉ text.toList
  ending : text.toList.getLast? ≠ some '\r'

instance (text : String) : Decidable (IsLine text) :=
  decidable_of_iff ('\n' ∉ text.toList ∧ text.toList.getLast? ≠ some '\r')
    ⟨fun h => ⟨h.1, h.2⟩, fun h => ⟨h.unbroken, h.ending⟩⟩

/-- How a line ends. -/
inductive LineEnd where
  | newline
  | returnNewline
  deriving DecidableEq

namespace LineEnd

/-- The text behind a line. -/
def text : LineEnd → String
  | newline => "\n"
  | returnNewline => "\r\n"

/-- A line and what stands between it and its newline. -/
def piece (line : String) : LineEnd → String
  | newline => line
  | returnNewline => line ++ "\r"

variable {line : String} (ending : LineEnd)

theorem append_text : line ++ ending.text = ending.piece line ++ "\n" := by
  cases ending with
  | newline => rfl
  | returnNewline =>
      rw [piece, String.append_assoc]
      rfl

theorem notMem_piece (h : IsLine line) : '\n' ∉ (ending.piece line).toList := by
  cases ending with
  | newline => exact h.unbroken
  | returnNewline =>
      rw [piece, String.toList_append, List.mem_append, not_or]
      exact ⟨h.unbroken, by decide⟩

theorem dropFinalReturn_piece (h : IsLine line) :
    dropFinalReturn (ending.piece line).toList = line.toList := by
  cases ending with
  | newline => exact dropFinalReturn_of_getLast? h.ending
  | returnNewline =>
      rw [piece, String.toList_append]
      exact dropFinalReturn_concat line.toList

end LineEnd

/-- Lines as a text, each with its end. -/
def written (lines : List (String × LineEnd)) : String :=
  String.join (lines.map fun line => line.1 ++ line.2.text)

section Written

variable {lines : List (String × LineEnd)} {last : String}

/-- A text with a line in it is not empty. -/
theorem written_ne_empty (h : lines ≠ []) : written lines ≠ "" := by
  obtain ⟨⟨line, ending⟩, rest, rfl⟩ := List.exists_cons_of_ne_nil h
  intro hempty
  rw [written, List.map_cons, String.join_cons] at hempty
  have hending : ending.text = "" :=
    (String.append_eq_empty_iff.1 (String.append_eq_empty_iff.1 hempty).1).2
  revert hending
  cases ending <;> decide

theorem splitAtNewlines_written_append (h : ∀ line ∈ lines, IsLine line.1) (hlast : IsLine last) :
    splitAtNewlines (written lines ++ last).toList =
      (lines.map fun line => (line.2.piece line.1).toList) ++ [last.toList] := by
  have hwritten : written lines =
      String.join ((lines.map fun line => line.2.piece line.1).map (· ++ "\n")) := by
    rw [written, List.map_map]
    exact congrArg String.join (List.map_congr_left fun line _ => line.2.append_text)
  rw [String.toList_append, hwritten, splitAtNewlines_join_append _ hlast.unbroken, List.map_map]
  · rfl
  · rintro _ hpiece
    obtain ⟨line, hline, rfl⟩ := List.mem_map.1 hpiece
    exact line.2.notMem_piece (h line hline)

/-- Before their newlines the lines are found again. -/
theorem map_dropFinalReturn_pieces (h : ∀ line ∈ lines, IsLine line.1) :
    (lines.map fun line => (line.2.piece line.1).toList).map
      (fun piece => String.ofList (dropFinalReturn piece)) = lines.map Prod.fst := by
  rw [List.map_map]
  refine List.map_congr_left fun line hline => ?_
  rw [Function.comp_apply, line.2.dropFinalReturn_piece (h line hline), String.ofList_toList]

/-- **Lines that are written with their ends are found again**, and behind them what comes last. -/
theorem split_written_append (h : ∀ line ∈ lines, IsLine line.1) (hlast : IsLine last) :
    split (written lines ++ last) = lines.map Prod.fst ++ [last] := by
  rw [split, splitAtNewlines_written_append h hlast, List.map_append, map_dropFinalReturn_pieces h,
    List.map_singleton, dropFinalReturn_of_getLast? hlast.ending, String.ofList_toList]

/-- Where every line has an end, nothing is left to come last. -/
theorem terminated_written (h : ∀ line ∈ lines, IsLine line.1) :
    terminated (written lines) = lines.map Prod.fst := by
  have hempty : IsLine "" := by decide
  have hpieces := splitAtNewlines_written_append h hempty
  rw [String.append_empty] at hpieces
  rw [terminated, hpieces]
  simp only [String.toList_empty, List.getLast?_concat, List.dropLast_concat]
  exact map_dropFinalReturn_pieces h

end Written

end Lines

end TracePlayer
