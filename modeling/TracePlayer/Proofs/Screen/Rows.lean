/-
**Every line of a paragraph has a row of its own.**

A paragraph puts its lines into the rows of an area, one after the other.  Whatever is put into one
row leaves the cells of all others alone, so a row of a paragraph looks as if its line were the only
one.

Main definitions:

* `Canvas.cell?`: what is in a column and a row;
* `Canvas.AlikeIn`: two screens that look alike in a row;
* `Area.row`: a row of an area.

Main results:

* `Canvas.cell?_modify`: a change of one cell changes no other;
* `Canvas.alikeIn_paragraph`: **a row of a paragraph shows its own line and nothing else**;
* `Canvas.size_box`: a border does not change the size of the screen.
-/
import TracePlayer.Screen.Block

set_option autoImplicit false

namespace TracePlayer

/-- A row of an area, counted from its upper edge. -/
def Area.row (area : Area) (index : Nat) : Area :=
  { area with y := area.y + index, height := 1 }

namespace Canvas

/-! ### Cells -/

/-- What is in a column and a row of the screen. -/
def cell? (canvas : Canvas) (column row : Nat) : Option Cell :=
  if column < canvas.width ∧ row < canvas.height then
    canvas.cells[row * canvas.width + column]?
  else none

/-- The cells of a screen have different places. -/
theorem place_inj {width column row column' row' : Nat} (h : column < width)
    (h' : column' < width) :
    row * width + column = row' * width + column' ↔ column = column' ∧ row = row' := by
  constructor
  · intro heq
    have hrow : row = row' := by
      have hdiv := congrArg (· / width) heq
      simpa [Nat.mul_comm _ width, Nat.mul_add_div (Nat.zero_lt_of_lt h), Nat.div_eq_of_lt h,
        Nat.div_eq_of_lt h'] using hdiv
    subst hrow
    exact ⟨Nat.add_left_cancel heq, rfl⟩
  · rintro ⟨rfl, rfl⟩
    rfl

/-- **A change of one cell changes no other.** -/
theorem cell?_modify (canvas : Canvas) (column row : Nat) (change : Cell → Cell)
    (column' row' : Nat) :
    (canvas.modify column row change).cell? column' row' =
      if column = column' ∧ row = row' then (canvas.cell? column' row').map change
      else canvas.cell? column' row' := by
  by_cases h : column < canvas.width ∧ row < canvas.height
  · rw [modify, if_pos h]
    by_cases h' : column' < canvas.width ∧ row' < canvas.height
    · simp only [cell?, if_pos h', Array.getElem?_modify, place_inj h.1 h'.1]
    · simp only [cell?, if_neg h', Option.map_none, ite_self]
  · rw [modify, if_neg h]
    by_cases hsame : column = column' ∧ row = row'
    · obtain ⟨rfl, rfl⟩ := hsame
      simp only [cell?, if_neg h, Option.map_none, ite_self]
    · rw [if_neg hsame]

/-! ### Size -/

/-- The numbers of columns and rows. -/
def size (canvas : Canvas) : Nat × Nat := (canvas.width, canvas.height)

section Size

variable (canvas : Canvas)

@[simp] theorem size_modify (column row : Nat) (change : Cell → Cell) :
    (canvas.modify column row change).size = canvas.size := by
  unfold modify
  split <;> rfl

theorem size_foldl {α : Type} {step : Canvas → α → Canvas} {items : List α}
    (h : ∀ canvas item, (step canvas item).size = canvas.size) :
    (items.foldl step canvas).size = canvas.size := by
  induction items generalizing canvas with
  | nil => rfl
  | cons item items ih => exact (ih (step canvas item)).trans (h canvas item)

@[simp] theorem size_modifyArea (area : Area) (change : Cell → Cell) :
    (canvas.modifyArea area change).size = canvas.size :=
  size_foldl canvas fun canvas _ => size_foldl canvas fun canvas _ => canvas.size_modify _ _ change

@[simp] theorem size_fill (area : Area) (symbol : String) :
    (canvas.fill area symbol).size = canvas.size :=
  canvas.size_modifyArea area _

theorem size_putSpan_go (area : Area) (first : Bool) (column : Nat) (glyphs : List Glyph) :
    (putSpan.go area first column glyphs canvas).size = canvas.size := by
  induction glyphs generalizing canvas first column with
  | nil => rfl
  | cons glyph glyphs ih =>
      rw [putSpan.go]
      split
      · rfl
      · rw [ih, clear, size_modifyArea]
        split
        · exact canvas.size_modify ..
        · split
          · exact canvas.size_modify ..
          · split <;> exact canvas.size_modify ..

theorem size_putSpans (area : Area) (spans : List Span) :
    (canvas.putSpans area spans).size = canvas.size := by
  induction spans generalizing canvas area with
  | nil => rfl
  | cons span spans ih =>
      rw [putSpans]
      split
      · rfl
      · split
        · exact ih canvas area
        · rw [ih, putSpan, size_putSpan_go]

/-- **A border does not change the size of the screen.** -/
theorem size_box (area : Area) (title : String) : (canvas.box area title).size = canvas.size := by
  simp only [box]
  split
  · rfl
  · simp only [size_putSpans, size_fill]

end Size

/-! ### Rows -/

/-- **Two screens of one size that look alike in a row.** -/
structure AlikeIn (row : Nat) (first second : Canvas) : Prop where
  size : first.size = second.size
  cell : ∀ column, first.cell? column row = second.cell? column row

section AlikeIn

variable {row : Nat} {canvas first second third : Canvas}

theorem AlikeIn.refl (row : Nat) (canvas : Canvas) : AlikeIn row canvas canvas :=
  ⟨rfl, fun _ => rfl⟩

theorem AlikeIn.trans (h : AlikeIn row first second) (h' : AlikeIn row second third) :
    AlikeIn row first third :=
  ⟨h.size.trans h'.size, fun column => (h.cell column).trans (h'.cell column)⟩

/-- The same change on both of them. -/
theorem AlikeIn.modify (h : AlikeIn row first second) (column place : Nat)
    (change : Cell → Cell) :
    AlikeIn row (first.modify column place change) (second.modify column place change) := by
  refine ⟨by rw [size_modify, size_modify, h.size], fun column' => ?_⟩
  rw [cell?_modify, cell?_modify, h.cell column']

theorem alikeIn_modify {place : Nat} (h : place ≠ row) (column : Nat) (change : Cell → Cell) :
    AlikeIn row (canvas.modify column place change) canvas := by
  refine ⟨canvas.size_modify .., fun column' => ?_⟩
  rw [cell?_modify, if_neg fun hsame => h hsame.2]

theorem AlikeIn.putGlyphs (h : AlikeIn row first second) (column place : Nat)
    (glyphs : List Glyph) :
    AlikeIn row (first.putGlyphs column place glyphs) (second.putGlyphs column place glyphs) := by
  induction glyphs generalizing first second column with
  | nil => exact h
  | cons glyph glyphs ih =>
      rw [Canvas.putGlyphs, Canvas.putGlyphs]
      split
      · exact ih h column
      · exact ih (h.modify column place _) (column + glyph.width)

/-- Glyphs in another row leave a row alone. -/
theorem alikeIn_putGlyphs {place : Nat} (h : place ≠ row) (column : Nat) (glyphs : List Glyph) :
    AlikeIn row (canvas.putGlyphs column place glyphs) canvas := by
  induction glyphs generalizing canvas column with
  | nil => exact .refl row canvas
  | cons glyph glyphs ih =>
      rw [Canvas.putGlyphs]
      split
      · exact ih column
      · exact (ih (column + glyph.width)).trans (alikeIn_modify h column _)

end AlikeIn

/-! ### Paragraphs -/

section Paragraph

variable {canvas : Canvas} {area : Area}

/-- Lines from a row on, one in each row. -/
def putRowsFrom (canvas : Canvas) (area : Area) (start : Nat) (rows : List (List Glyph)) : Canvas :=
  (rows.zipIdx start).foldl
    (fun canvas (glyphs, index) => canvas.putGlyphs area.x (area.y + index) glyphs) canvas

theorem putRowsFrom_cons (start : Nat) (glyphs : List Glyph) (rows : List (List Glyph)) :
    canvas.putRowsFrom area start (glyphs :: rows) =
      (canvas.putGlyphs area.x (area.y + start) glyphs).putRowsFrom area (start + 1) rows := rfl

/-- The rows above are left alone. -/
theorem alikeIn_putRowsFrom_of_lt {row start : Nat} (h : row < area.y + start)
    (rows : List (List Glyph)) : AlikeIn row (canvas.putRowsFrom area start rows) canvas := by
  induction rows generalizing canvas start with
  | nil => exact .refl row canvas
  | cons glyphs rows ih =>
      rw [putRowsFrom_cons]
      exact (ih (Nat.lt_succ_of_lt h)).trans (alikeIn_putGlyphs (Nat.ne_of_gt h) area.x glyphs)

/-- A row shows its own glyphs and nothing else. -/
theorem alikeIn_putRowsFrom (canvas : Canvas) (area : Area) (start : Nat) {index : Nat}
    {glyphs : List Glyph} {rows : List (List Glyph)} (h : rows[index]? = some glyphs) :
    AlikeIn (area.y + (start + index)) (canvas.putRowsFrom area start rows)
      (canvas.putGlyphs area.x (area.y + (start + index)) glyphs) := by
  induction rows generalizing canvas start index with
  | nil => simp at h
  | cons first rows ih =>
      rw [putRowsFrom_cons]
      cases index with
      | zero =>
          obtain rfl : first = glyphs := Option.some.inj h
          exact alikeIn_putRowsFrom_of_lt (Nat.lt_succ_self _) rows
      | succ index =>
          have hrow : start + (index + 1) = start + 1 + index := by omega
          have hother : area.y + start ≠ area.y + (start + 1 + index) := by omega
          rw [hrow]
          exact (ih _ _ h).trans ((alikeIn_putGlyphs hother area.x first).putGlyphs _ _ _)

theorem alikeIn_putRows (canvas : Canvas) (area : Area) {index : Nat} {glyphs : List Glyph}
    {rows : List (List Glyph)} (h : rows[index]? = some glyphs) (inside : index < area.height) :
    AlikeIn (area.y + index) (canvas.putRows area rows)
      (canvas.putGlyphs area.x (area.y + index) glyphs) := by
  have hglyphs : (rows.take area.height)[index]? = some glyphs :=
    (List.getElem?_take_of_lt inside).trans h
  have hrow := alikeIn_putRowsFrom canvas area 0 hglyphs
  rwa [Nat.zero_add] at hrow

theorem clip_row {index : Nat} (onScreen : area.y + index < canvas.height) :
    canvas.clip (area.row index) = (canvas.clip area).row index := by
  have hheight : Nat.min 1 (canvas.height - (area.y + index)) = 1 := Nat.min_eq_left (by omega)
  simp only [clip, Area.row, hheight]

/-- **A row of a paragraph shows its own line and nothing else**, if the row is on the screen. -/
theorem alikeIn_paragraph {lines : List Line} {index : Nat} {line : Line}
    (hline : lines[index]? = some line) (inside : index < area.height)
    (onScreen : area.y + index < canvas.height) :
    AlikeIn (area.y + index) (canvas.paragraph area lines)
      (canvas.paragraph (area.row index) [line]) := by
  simp only [paragraph, clip_row onScreen]
  have hheight : index < (canvas.clip area).height := Nat.lt_min.2 ⟨inside, by omega⟩
  by_cases hwidth : (canvas.clip area).width = 0
  · rw [if_pos (by simp [Area.isEmpty, hwidth]), if_pos (by simp [Area.isEmpty, Area.row, hwidth])]
    exact .refl _ canvas
  · have hempty : ¬(canvas.clip area).isEmpty = true := by
      simp only [Area.isEmpty, Bool.or_eq_true, beq_iff_eq]
      omega
    have hemptyRow : ¬((canvas.clip area).row index).isEmpty = true := by
      simp only [Area.isEmpty, Area.row, Bool.or_eq_true, beq_iff_eq]
      omega
    rw [if_neg hempty, if_neg hemptyRow]
    refine alikeIn_putRows canvas (canvas.clip area) ?_ hheight
    rw [List.getElem?_map, hline, Option.map_some]
    rfl

end Paragraph

end Canvas

end TracePlayer
