/-
**The areas of the screen tile it.**

Cutting an area along a whole row or a whole column makes two areas of it, and a cell of the one
lies in exactly one of the two.  The layout is made by four such cuts, so its five areas share out
the cells of the screen, however small or large the screen is and whatever sizes were asked for.

The sizes and places are numbers of sixteen bits.  Beside the layout stands the same calculation
with every step checked, which gives up at a number that does not fit.

Main definitions:

* `Area.Cut`: **areas cut out of another one**, along whole rows and columns;
* `Layout.calculate?`: the layout with every step checked;
* `Layout.Tiles`: **what a layout does with a screen**.

Main results:

* `Area.Cut.countP_contains`: every cell lies in exactly one of the areas it was cut into;
* `Layout.cut_calculate`: a layout is made by cuts;
* `Layout.calculate?_eq_some`: no step leaves its range on a screen whose edges fit;
* `Layout.tiles_calculate`: **every layout tiles its screen, and no step of it leaves its range**.
-/
import TracePlayer.Viewer.Layout

set_option autoImplicit false

namespace TracePlayer

/-! ### Cuts -/

namespace Area

/-- An area inside another one, edge by edge. -/
structure Within (area whole : Area) : Prop where
  left : whole.x ≤ area.x
  right : area.x + area.width ≤ whole.x + whole.width
  top : whole.y ≤ area.y
  bottom : area.y + area.height ≤ whole.y + whole.height

/-- **The areas that an area is cut into**, along whole rows and whole columns. -/
inductive Cut : Area → List Area → Prop
  /-- It is not cut. -/
  | whole (area : Area) : Cut area [area]
  /-- Some of its rows lie above the cut, the others below. -/
  | rows {area : Area} {above below : Nat} (upper lower : List Area)
      (heights : above + below = area.height)
      (hupper : Cut { area with height := above } upper)
      (hlower : Cut { area with y := area.y + above, height := below } lower) :
      Cut area (upper ++ lower)
  /-- Some of its columns lie to the left of the cut, the others to the right. -/
  | columns {area : Area} {before after : Nat} (left right : List Area)
      (widths : before + after = area.width)
      (hleft : Cut { area with width := before } left)
      (hright : Cut { area with x := area.x + before, width := after } right) :
      Cut area (left ++ right)

theorem Within.refl (area : Area) : area.Within area :=
  ⟨Nat.le_refl _, Nat.le_refl _, Nat.le_refl _, Nat.le_refl _⟩

theorem Within.trans {area middle whole : Area} (h : area.Within middle)
    (hmiddle : middle.Within whole) : area.Within whole :=
  ⟨Nat.le_trans hmiddle.left h.left, Nat.le_trans h.right hmiddle.right,
    Nat.le_trans hmiddle.top h.top, Nat.le_trans h.bottom hmiddle.bottom⟩

namespace Cut

variable {area : Area} {parts : List Area}

/-- Two areas without a common cell share out the cells that lie in one of them. -/
theorem contains_add {first second : Area} {column row : Nat}
    (either : area.Contains column row ↔ first.Contains column row ∨ second.Contains column row)
    (apart : ¬(first.Contains column row ∧ second.Contains column row)) :
    ((if first.Contains column row then 1 else 0) + if second.Contains column row then 1 else 0) =
      if area.Contains column row then 1 else 0 := by
  by_cases hfirst : first.Contains column row
  · rw [if_pos hfirst, if_neg fun hsecond => apart ⟨hfirst, hsecond⟩,
      if_pos (either.2 (.inl hfirst))]
  · simp only [either, hfirst, if_false, false_or, Nat.zero_add]

/-- **Every cell of an area lies in exactly one of the areas it is cut into**, and no other cell
in any of them. -/
theorem countP_contains (h : area.Cut parts) (column row : Nat) :
    (parts.countP fun part => part.Contains column row) =
      if area.Contains column row then 1 else 0 := by
  induction h with
  | whole area => simp [List.countP_singleton]
  | rows _ _ heights _ _ ihupper ihlower =>
      rw [List.countP_append, ihupper, ihlower]
      refine contains_add ?_ ?_ <;> simp only [Contains] <;> omega
  | columns _ _ widths _ _ ihleft ihright =>
      rw [List.countP_append, ihleft, ihright]
      refine contains_add ?_ ?_ <;> simp only [Contains] <;> omega

/-- No area reaches outside the one it was cut out of. -/
theorem within (h : area.Cut parts) : ∀ part ∈ parts, part.Within area := by
  induction h with
  | whole area =>
      intro part hpart
      obtain rfl := List.mem_singleton.1 hpart
      exact .refl _
  | rows _ _ heights _ _ ihupper ihlower =>
      intro part hpart
      rcases List.mem_append.1 hpart with hpart | hpart
      · exact (ihupper part hpart).trans
          ⟨Nat.le_refl _, Nat.le_refl _, Nat.le_refl _, by simp only; omega⟩
      · exact (ihlower part hpart).trans
          ⟨Nat.le_refl _, Nat.le_refl _, Nat.le_add_right _ _, by simp only; omega⟩
  | columns _ _ widths _ _ ihleft ihright =>
      intro part hpart
      rcases List.mem_append.1 hpart with hpart | hpart
      · exact (ihleft part hpart).trans
          ⟨Nat.le_refl _, by simp only; omega, Nat.le_refl _, Nat.le_refl _⟩
      · exact (ihright part hpart).trans
          ⟨Nat.le_add_right _ _, by simp only; omega, Nat.le_refl _, Nat.le_refl _⟩

end Cut

end Area

/-! ### The calculation step by step -/

namespace Layout

/-- A number that has to be below a limit. -/
def below? (limit n : Nat) : Option Nat := if n < limit then some n else none

/-- A difference that must not be negative. -/
def difference? (m n : Nat) : Option Nat := if n ≤ m then some (m - n) else none

theorem below?_eq_some {limit n : Nat} (h : n < limit) : below? limit n = some n := if_pos h

theorem difference?_eq_some {m n : Nat} (h : n ≤ m) : difference? m n = some (m - n) := if_pos h

/-- **The layout with every step checked.**  Sums have to fit into sixteen bits, and the product of
the width and the percentage into thirty-two, of which the quotient keeps the lower half.  The
differences with the screen, the source and the output stop at zero by themselves; the height of the
locals is a plain one. -/
def calculate? (config : LayoutConfig) (screen : Area) : Option Layout := do
  let statusHeight := Nat.min config.statusHeight (screen.height - 1)
  let mainHeight := screen.height - statusHeight
  let statusY ← below? UInt16.size (screen.y + mainHeight)
  let product ← below? UInt32.size (screen.width * Nat.min config.sourcePercent 100)
  let sourceWidth := product / 100 % UInt16.size
  let sideX ← below? UInt16.size (screen.x + sourceWidth)
  let sideWidth := screen.width - sourceWidth
  let stdoutHeight := Nat.min config.stdoutHeight (mainHeight / 3)
  let upper := mainHeight - stdoutHeight
  let treeHeight := upper / 2
  let localsY ← below? UInt16.size (screen.y + treeHeight)
  let localsHeight ← difference? upper treeHeight
  let stdoutY ← below? UInt16.size (screen.y + upper)
  return {
    source := ⟨screen.x, screen.y, sourceWidth, mainHeight⟩
    tree := ⟨sideX, screen.y, sideWidth, treeHeight⟩
    locals := ⟨sideX, localsY, sideWidth, localsHeight⟩
    stdout := ⟨sideX, stdoutY, sideWidth, stdoutHeight⟩
    status := ⟨screen.x, statusY, screen.width, statusHeight⟩ }

variable {screen : Area}

/-- A share of a width, at most the whole of it. -/
theorem share_le (width percent : Nat) : width * Nat.min percent 100 / 100 ≤ width :=
  Nat.div_le_of_le_mul (Nat.mul_comm 100 width ▸ Nat.mul_le_mul_left width (Nat.min_le_right _ _))

/-- **No step leaves its range** on a screen whose right and lower edges fit into sixteen bits. -/
theorem calculate?_eq_some (config : LayoutConfig) (right : screen.x + screen.width < UInt16.size)
    (bottom : screen.y + screen.height < UInt16.size) :
    calculate? config screen = some (calculate config screen) := by
  have hshare := share_le screen.width config.sourcePercent
  have hproduct : screen.width * Nat.min config.sourcePercent 100 < UInt32.size :=
    calc screen.width * Nat.min config.sourcePercent 100
      _ ≤ screen.width * 100 := Nat.mul_le_mul_left _ (Nat.min_le_right _ _)
      _ ≤ UInt16.size * 100 := Nat.mul_le_mul_right _ (by omega)
      _ < UInt32.size := by decide
  have hsource : screen.width * Nat.min config.sourcePercent 100 / 100 % UInt16.size =
      screen.width * Nat.min config.sourcePercent 100 / 100 := Nat.mod_eq_of_lt (by omega)
  simp only [calculate?]
  rw [below?_eq_some (by omega), below?_eq_some hproduct]
  simp only [Option.bind_eq_bind, Option.bind_some, hsource]
  rw [below?_eq_some (by omega), Option.bind_some, below?_eq_some (by omega), Option.bind_some,
    difference?_eq_some (Nat.div_le_self _ _), Option.bind_some, below?_eq_some (by omega)]
  rfl

/-! ### The cuts of a layout -/

/-- The five areas. -/
def areas (layout : Layout) : List Area :=
  [layout.source, layout.tree, layout.locals, layout.stdout, layout.status]

/-- **A layout is made by four cuts**: the status bar is cut off, the source from the side, and the
side into the tree, the locals and the output. -/
theorem cut_calculate (config : LayoutConfig) (screen : Area) :
    screen.Cut (calculate config screen).areas := by
  have hstatus : Nat.min config.statusHeight (screen.height - 1) ≤ screen.height :=
    Nat.le_trans (Nat.min_le_right _ _) (Nat.sub_le _ _)
  have hshare := share_le screen.width config.sourcePercent
  have hstdout (height : Nat) : Nat.min config.stdoutHeight (height / 3) ≤ height :=
    Nat.le_trans (Nat.min_le_right _ _) (Nat.div_le_self _ _)
  refine .rows [_, _, _, _] [_] (Nat.sub_add_cancel hstatus) ?_ (.whole _)
  refine .columns [_] [_, _, _] (Nat.add_sub_cancel' hshare) (.whole _) ?_
  refine .rows [_, _] [_] (Nat.sub_add_cancel (hstdout _)) ?_ (.whole _)
  exact .rows [_] [_] (Nat.add_sub_cancel' (Nat.div_le_self _ 2)) (.whole _)
    (.whole _)

/-! ### Tilings -/

/-- **What a layout does with a screen.** -/
structure Tiles (layout : Layout) (screen : Area) : Prop where
  /-- Every cell of the screen lies in exactly one of the five areas, and no other cell in any. -/
  once : ∀ column row, (layout.areas.countP fun area => area.Contains column row) =
    if screen.Contains column row then 1 else 0
  /-- No area reaches outside the screen. -/
  within : ∀ area ∈ layout.areas, area.Within screen
  /-- A screen that has rows keeps one of them above the status bar. -/
  row_above : 0 < screen.height → screen.y < layout.status.y

/-- **Every layout tiles its screen, and no step of it leaves its range**, whatever the sizes asked
for, if the right and the lower edge of the screen fit into sixteen bits. -/
theorem tiles_calculate (config : LayoutConfig) (screen : Area)
    (right : screen.x + screen.width < UInt16.size)
    (bottom : screen.y + screen.height < UInt16.size) :
    calculate? config screen = some (calculate config screen) ∧
      (calculate config screen).Tiles screen := by
  have cut := cut_calculate config screen
  refine ⟨calculate?_eq_some config right bottom, cut.countP_contains, cut.within, ?_⟩
  intro rows
  have hstatus : Nat.min config.statusHeight (screen.height - 1) ≤ screen.height - 1 :=
    Nat.min_le_right _ _
  show screen.y < screen.y + (screen.height - Nat.min config.statusHeight (screen.height - 1))
  omega

/-- A screen in the far corner, with more asked for than it has: the source takes all columns, the
status bar all rows but one, and the cell in the corner belongs to the status bar. -/
theorem tiles_farCorner :
    (65000 + 535 < UInt16.size ∧ 65530 + 5 < UInt16.size) ∧
      calculate? ⟨65535, 65535, 65535⟩ ⟨65000, 65530, 535, 5⟩ =
        some ⟨⟨65000, 65530, 535, 1⟩, ⟨65535, 65530, 0, 0⟩, ⟨65535, 65530, 0, 1⟩,
          ⟨65535, 65531, 0, 0⟩, ⟨65000, 65531, 535, 4⟩⟩ ∧
      Tiles ⟨⟨65000, 65530, 535, 1⟩, ⟨65535, 65530, 0, 0⟩, ⟨65535, 65530, 0, 1⟩,
        ⟨65535, 65531, 0, 0⟩, ⟨65000, 65531, 535, 4⟩⟩ ⟨65000, 65530, 535, 5⟩ :=
  ⟨by decide, tiles_calculate ⟨65535, 65535, 65535⟩ ⟨65000, 65530, 535, 5⟩ (by decide) (by decide)⟩

end Layout

end TracePlayer
