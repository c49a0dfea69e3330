/-
**The areas of the screen.**

The source takes the left part of the screen; the call tree, the locals and the output share the
right part; the status bar runs along the bottom.

Main definitions:

* `Area`: a rectangle of cells;
* `LayoutConfig`, `Layout`: the sizes asked for, and the five areas;
* `Layout.calculate`: the areas on a screen;
* `scrollOffset`: the first row shown of a list with a row that must stay in sight.
-/

set_option autoImplicit false

namespace TracePlayer

/-- A rectangle of cells. -/
structure Area where
  /-- The column of its left edge. -/
  x : Nat
  /-- The row of its upper edge. -/
  y : Nat
  /-- The number of columns. -/
  width : Nat
  /-- The number of rows. -/
  height : Nat
  deriving DecidableEq

namespace Area

/-- Whether a cell lies in the area. -/
def Contains (area : Area) (column row : Nat) : Prop :=
  area.x ≤ column ∧ column < area.x + area.width ∧ area.y ≤ row ∧ row < area.y + area.height

instance (area : Area) (column row : Nat) : Decidable (area.Contains column row) := by
  unfold Contains
  infer_instance

/-- The rows inside a border. -/
def innerHeight (area : Area) : Nat := area.height - 2

end Area

/-- The sizes asked for. -/
structure LayoutConfig where
  /-- The width of the source, in hundredths of the screen. -/
  sourcePercent : Nat
  /-- The height of the status bar. -/
  statusHeight : Nat
  /-- The height of the output. -/
  stdoutHeight : Nat
  deriving DecidableEq

namespace LayoutConfig

/-- The sizes used when none are asked for. -/
def standard : LayoutConfig := ⟨60, 3, 8⟩

/-- Another width of the source, at most the whole screen. -/
def withSourcePercent (config : LayoutConfig) (percent : Nat) : LayoutConfig :=
  { config with sourcePercent := Nat.min percent 100 }

end LayoutConfig

/-- The five areas of the screen. -/
structure Layout where
  /-- The source, on the left. -/
  source : Area
  /-- The call tree, on the upper right. -/
  tree : Area
  /-- The locals, on the right below the tree. -/
  locals : Area
  /-- The output, on the lower right. -/
  stdout : Area
  /-- The status bar, along the bottom. -/
  status : Area
  deriving DecidableEq

/-- **The areas on a screen.**  The status bar leaves at least one row for the rest, the output
takes at most a third of that, and the tree and the locals share what is left. -/
def Layout.calculate (config : LayoutConfig) (screen : Area) : Layout :=
  let statusHeight := Nat.min config.statusHeight (screen.height - 1)
  let mainHeight := screen.height - statusHeight
  let sourceWidth := screen.width * Nat.min config.sourcePercent 100 / 100
  let sideX := screen.x + sourceWidth
  let sideWidth := screen.width - sourceWidth
  let stdoutHeight := Nat.min config.stdoutHeight (mainHeight / 3)
  let upper := mainHeight - stdoutHeight
  let treeHeight := upper / 2
  { source := ⟨screen.x, screen.y, sourceWidth, mainHeight⟩
    tree := ⟨sideX, screen.y, sideWidth, treeHeight⟩
    locals := ⟨sideX, screen.y + treeHeight, sideWidth, upper - treeHeight⟩
    stdout := ⟨sideX, screen.y + upper, sideWidth, stdoutHeight⟩
    status := ⟨screen.x, screen.y + mainHeight, screen.width, statusHeight⟩ }

/-- The first row shown of a list of `length` rows in a window of `height` rows, so that the row
`focus` is near the middle and the window ends no later than the list. -/
def scrollOffset (focus : Option Nat) (length height : Nat) : Nat :=
  match focus with
  | some focus => if height < length then Nat.min (focus - height / 2) (length - height) else 0
  | none => 0

end TracePlayer
