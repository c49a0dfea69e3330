/-
**The row that matters stays in sight.**

The source and the call tree are longer than their panels.  Both are shown from an offset on that
puts the highlighted line, or the selected row, near the middle, but neither above the first row nor
so far down that rows of the panel stay empty.  The offset counts in rows of the list, the panel in
rows of the screen; that the row in focus is drawn at all follows from both.

Main definitions:

* `Scrolled`: **an offset that keeps a row in sight**;
* `View.Focused`: a view in which one line at most is highlighted and one row at most selected;
* `Panel.InSight`: **a row that a panel draws**.

Main results:

* `scrolled_scrollOffset`: the scroll offset keeps the row in focus in sight;
* `Panel.inSight_of_draw`: so does a panel that draws its list from that offset on;
* `View.focused_build`: the views of folded states are focused;
* `View.focus_in_sight`: **the highlighted line and the selected row are drawn**.
-/
import TracePlayer.Proofs.Screen.Rows
import TracePlayer.Proofs.Viewer.Spotlight
import TracePlayer.Proofs.Viewer.Tiling
import TracePlayer.Viewer.Panel

set_option autoImplicit false

namespace TracePlayer

/-! ### Offsets -/

/-- **An offset that keeps a row of a list in sight**, in a window of some rows. -/
structure Scrolled (focus : Option Nat) (length height offset : Nat) : Prop where
  /-- The row in focus does not lie above the window. -/
  above : ∀ row ∈ focus, offset ≤ row
  /-- It does not lie below the window. -/
  below : ∀ row ∈ focus, row < offset + height
  /-- The window does not reach past the end of a list that can fill it. -/
  filled : height ≤ length → offset + height ≤ length

/-- **The scroll offset keeps the row in focus in sight.** -/
theorem scrolled_scrollOffset {focus : Option Nat} {length height : Nat}
    (inList : ∀ row ∈ focus, row < length) (rows : 0 < height) :
    Scrolled focus length height (scrollOffset focus length height) := by
  cases focus with
  | none => exact ⟨by simp, by simp, fun filled => by simpa [scrollOffset] using filled⟩
  | some row =>
      have hrow : row < length := inList row rfl
      by_cases hlength : height < length
      · have hoffset : scrollOffset (some row) length height =
            min (row - height / 2) (length - height) := if_pos hlength
        -- half of a window is smaller than the window, so the middle of it is one of its rows
        have hhalf : height / 2 < height := Nat.div_lt_self rows (by decide)
        rw [hoffset]
        exact {
          above := by rintro _ ⟨⟩; omega
          below := by rintro _ ⟨⟩; omega
          filled := fun filled => by omega }
      · have hoffset : scrollOffset (some row) length height = 0 := if_neg hlength
        rw [hoffset]
        exact {
          above := by rintro _ ⟨⟩; omega
          below := by rintro _ ⟨⟩; omega
          filled := fun filled => by omega }

section Window

variable {α : Type} {list : List α} {index height : Nat} {item : α}

/-- **The window of a list shows the item in focus.** -/
theorem exists_getElem?_window (hitem : list[index]? = some item) (rows : 0 < height) :
    ∃ row, row < height ∧ (Window (some index) list height)[row]? = some item := by
  obtain ⟨hindex, -⟩ := List.getElem?_eq_some_iff.1 hitem
  have scrolled : Scrolled (some index) list.length height _ :=
    scrolled_scrollOffset (by simpa using hindex) rows
  have habove := scrolled.above index rfl
  have hbelow := scrolled.below index rfl
  refine ⟨index - scrollOffset (some index) list.length height, by omega, ?_⟩
  rw [Window, List.getElem?_drop, Nat.add_sub_cancel' habove]
  exact hitem

end Window

/-! ### Panels -/

/-- An area on the screen lies there as a whole. -/
theorem Canvas.clip_of_within {canvas : Canvas} {area : Area} (h : area.Within canvas.area) :
    canvas.clip area = area := by
  have hright : area.x + area.width ≤ 0 + canvas.width := h.right
  have hbottom : area.y + area.height ≤ 0 + canvas.height := h.bottom
  have hwidth : Nat.min area.width (canvas.width - area.x) = area.width :=
    Nat.min_eq_left (by omega)
  have hheight : Nat.min area.height (canvas.height - area.y) = area.height :=
    Nat.min_eq_left (by omega)
  simp only [Canvas.clip, hwidth, hheight]

/-- **A row that a panel draws.**  It is one of the rows of a window that fit inside the border, and
on a screen that holds the panel there is a row inside the border that looks as if its line alone
had been written into the empty panel. -/
def Panel.InSight {α : Type} (panel : Panel) (view : View) (area : Area) (title : String)
    (window : List α) (line : Theme → α → Line) (item : α) : Prop :=
  ∃ row, row < area.innerHeight ∧ window[row]? = some item ∧
    ∀ (theme : Theme) (canvas : Canvas), area.Within canvas.area →
      Canvas.AlikeIn (area.inside.y + row) (panel.draw view theme canvas area)
        ((canvas.box area title).paragraph (area.inside.row row) [line theme item])

section InSight

variable {α : Type} {panel : Panel} {view : View} {area : Area} {title : String}
  {list : List α} {line : Theme → α → Line} {index : Nat} {item : α}

/-- **A panel that shows the window of a list inside its border draws the item in focus.** -/
theorem Panel.inSight_of_draw
    (draws : ∀ (theme : Theme) (canvas : Canvas), panel.draw view theme canvas area =
      (canvas.box area title).paragraph (canvas.clip area).inside
        ((Window (some index) list area.innerHeight).map (line theme)))
    (hitem : list[index]? = some item) (rows : 0 < area.innerHeight) :
    panel.InSight view area title (Window (some index) list area.innerHeight) line item := by
  obtain ⟨row, hrow, hwindow⟩ := exists_getElem?_window hitem rows
  refine ⟨row, hrow, hwindow, fun theme canvas within => ?_⟩
  have hheight : (canvas.box area title).height = canvas.height :=
    congrArg Prod.snd (canvas.size_box area title)
  have hbottom : area.y + area.height ≤ 0 + canvas.height := within.bottom
  have htop : area.inside.y ≤ area.y + 1 := Nat.min_le_left _ _
  have hinner : row < area.height - 2 := hrow
  rw [draws, Canvas.clip_of_within within]
  refine Canvas.alikeIn_paragraph ?_ hrow (by omega)
  rw [List.getElem?_map, hwindow, Option.map_some]

end InSight

/-! ### Views -/

/-- An item that alone has a property is the one that is found. -/
theorem findIdx?_eq_some_of_unique {α : Type} {p : α → Bool} {list : List α} {index : Nat}
    {item : α} (hitem : list[index]? = some item) (hp : p item = true)
    (unique : ∀ other item', list[other]? = some item' → p item' = true → other = index) :
    list.findIdx? p = some index := by
  obtain ⟨hindex, rfl⟩ := List.getElem?_eq_some_iff.1 hitem
  refine List.findIdx?_eq_some_iff_getElem.2 ⟨hindex, hp, fun other hother hpother => ?_⟩
  have hlength : other < list.length := Nat.lt_trans hother hindex
  exact Nat.ne_of_lt hother (unique other _ (List.getElem?_eq_getElem hlength) hpother)

namespace State

/-- No two rows of the tree stand for one frame. -/
theorem nodup_frame_treeRows (events : List Event) (count : Nat) (selected : Option FrameId) :
    (((ofPrefix events count).treeRows selected).map TreeRow.frame).Nodup := by
  rw [frame_treeRows]
  exact (perm_walk events count).nodup_iff.2
    (FrameTable.nodup_of_pairwise_lt (ofPrefix events count).frames.pairwise_ids)

theorem eq_some_of_selected {state : State} {selected : Option FrameId} {row : TreeRow}
    (h : row ∈ state.treeRows selected) (hselected : row.selected = true) :
    selected = some row.frame := by
  rw [selected_of_mem_treeRows h] at hselected
  exact beq_iff_eq.1 hselected

end State

namespace View

/-- **A view with one line highlighted at most, and one row selected at most.** -/
structure Focused (view : View) : Prop where
  source : ∀ index line, view.source[index]? = some line → line.highlighted = true →
    view.highlightedIndex = some index
  tree : ∀ index row, view.tree[index]? = some row → row.selected = true →
    view.selectedIndex = some index

/-- A highlighted line has the number of the line that is being run. -/
theorem current_of_highlighted {current : Option UInt32} {lines : List String} {index : Nat}
    {line : SourceLine} (hline : (numberLines current lines)[index]? = some line)
    (highlighted : line.highlighted = true) :
    ∃ number, current = some number ∧ number.toNat = index + 1 := by
  rw [numberLines, List.getElem?_mapIdx] at hline
  obtain ⟨text, -, rfl⟩ := Option.map_eq_some_iff.1 hline
  obtain ⟨number, hcurrent, hnumber⟩ := (Option.any_eq_true ..).1 highlighted
  exact ⟨number, hcurrent, beq_iff_eq.1 hnumber⟩

/-- **The view of a folded state is focused**: source lines have different numbers, and tree rows
stand for different frames. -/
theorem focused_build (log : Log) (events : List Event) (count : Nat) (cursor : Cursor)
    (change : Change) (selection : Selection) :
    (build log (State.ofPrefix events count) cursor change selection).Focused where
  source index line hline highlighted := by
    refine findIdx?_eq_some_of_unique hline highlighted fun other line' hline' highlighted' => ?_
    obtain ⟨number, hcurrent, hnumber⟩ := current_of_highlighted hline highlighted
    obtain ⟨number', hcurrent', hnumber'⟩ := current_of_highlighted hline' highlighted'
    obtain rfl : number = number' := Option.some.inj (hcurrent.symm.trans hcurrent')
    omega
  tree index row hrow selected := by
    refine findIdx?_eq_some_of_unique hrow selected fun other row' hrow' selected' => ?_
    have hframe := State.eq_some_of_selected (List.mem_of_getElem? hrow) selected
    have hframe' := State.eq_some_of_selected (List.mem_of_getElem? hrow') selected'
    obtain hsame : row'.frame = row.frame := Option.some.inj (hframe'.symm.trans hframe)
    have hframes := congrArg (Option.map TreeRow.frame) hrow
    have hframes' := congrArg (Option.map TreeRow.frame) hrow'
    rw [← List.getElem?_map] at hframes hframes'
    rw [Option.map_some, hsame] at hframes'
    refine (List.getElem?_inj ?_ (State.nodup_frame_treeRows events count _)).1
      (hframes'.trans hframes.symm)
    exact (List.getElem?_eq_some_iff.1 hframes').1

/-- **The highlighted line and the selected row are drawn.**  The offset of every list keeps its row
in focus in sight and fills the window if it can; in a panel with a row inside its border the source
panel draws the highlighted line and the tree panel the selected row, wherever they are; a screen
holds all panels of a layout; and in the view of a folded state no other line is highlighted, and no
other row selected. -/
theorem focus_in_sight (view : View) (area : Area) (rows : 0 < area.innerHeight) :
    (∀ focus length height, (∀ row ∈ focus, row < length) → 0 < height →
        Scrolled focus length height (scrollOffset focus length height)) ∧
      (∀ index, view.highlightedIndex = some index → ∃ line, view.source[index]? = some line ∧
        line.highlighted = true ∧
        Panel.source.InSight view area view.filename (view.sourceWindow area) SourceLine.line
          line) ∧
      (∀ index, view.selectedIndex = some index → ∃ row, view.tree[index]? = some row ∧
        row.selected = true ∧
        Panel.tree.InSight view area "Call Tree" (view.treeWindow area) TreeRow.line row) ∧
      (∀ (config : LayoutConfig) (canvas : Canvas),
        ∀ part ∈ (Layout.calculate config canvas.area).areas, part.Within canvas.area) ∧
      ∀ log events count cursor change selection,
        (build log (State.ofPrefix events count) cursor change selection).Focused := by
  refine ⟨fun _ _ _ => scrolled_scrollOffset, fun index hindex => ?_, fun index hindex => ?_,
    fun config canvas => (Layout.cut_calculate config canvas.area).within, focused_build⟩
  · obtain ⟨hlength, highlighted, -⟩ := List.findIdx?_eq_some_iff_getElem.1 hindex
    have hline := List.getElem?_eq_getElem hlength
    refine ⟨_, hline, highlighted, ?_⟩
    rw [sourceWindow, hindex]
    refine Panel.inSight_of_draw (fun theme canvas => ?_) hline rows
    rw [Panel.draw, sourceWindow, hindex]
  · obtain ⟨hlength, selected, -⟩ := List.findIdx?_eq_some_iff_getElem.1 hindex
    have hrow := List.getElem?_eq_getElem hlength
    refine ⟨_, hrow, selected, ?_⟩
    rw [treeWindow, hindex]
    refine Panel.inSight_of_draw (fun theme canvas => ?_) hrow rows
    rw [Panel.draw, treeWindow, hindex]

/-- A source of five lines that is run at its last one, in the third of three calls. -/
def lastLine : View :=
  let events : List Event := [.plain 0 .call 1, { Event.plain 1 .call 2 with parent := some 1 },
    { Event.plain 2 .call 3 with parent := some 2, line := 5 }]
  let log : Log := { Log.empty ⟨"last"⟩ with source := "a\nb\nc\nd\ne", events := events }
  build log (State.ofPrefix events 3) default .none ⟨some 3, false⟩

/-- Two rows inside the border: the window ends with the list, and its second row is in focus. -/
theorem focus_in_sight_lastLine :
    0 < Area.innerHeight ⟨0, 0, 10, 4⟩ ∧
      lastLine.highlightedIndex = some 4 ∧ lastLine.selectedIndex = some 2 ∧
      (lastLine.sourceWindow ⟨0, 0, 10, 4⟩).map SourceLine.number = [4, 5] ∧
      (lastLine.treeWindow ⟨0, 0, 10, 4⟩).map TreeRow.frame = [2, 3] ∧
      (∃ line, lastLine.source[4]? = some line ∧ line.highlighted = true ∧
        Panel.source.InSight lastLine ⟨0, 0, 10, 4⟩ lastLine.filename
          (lastLine.sourceWindow ⟨0, 0, 10, 4⟩) SourceLine.line line) ∧
      ∃ row, lastLine.tree[2]? = some row ∧ row.selected = true ∧
        Panel.tree.InSight lastLine ⟨0, 0, 10, 4⟩ "Call Tree"
          (lastLine.treeWindow ⟨0, 0, 10, 4⟩) TreeRow.line row :=
  have inSight := focus_in_sight lastLine ⟨0, 0, 10, 4⟩ (by decide)
  ⟨by decide, by decide, by decide +kernel, by decide, by decide +kernel,
    inSight.2.1 4 (by decide), inSight.2.2.1 2 (by decide +kernel)⟩

end View

end TracePlayer
