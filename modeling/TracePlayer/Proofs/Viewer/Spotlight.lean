/-
**The frame on show.**

The rows of the call tree and the tabs of the locals panel come about in different ways, by a walk
through a forest and by sorting a table.  Both list every frame of a folded state once, so a frame
that is selected there has one row, one tab, and the locals on show are its own.

Main definitions:

* `View.Spotlights`: **a view puts one frame on show**.

Main results:

* `State.perm_walk`, `State.perm_frameOrder`: the walk and the order of the tabs list the frames of
  a state, each of them once;
* `filter_selected`: of things that stand for frames, each frame once, one is selected;
* `View.spotlights_build`: **the view of a folded state puts the selected frame on show**.
-/
import TracePlayer.Proofs.Program.Restriction
import TracePlayer.Viewer.View

set_option autoImplicit false

namespace TracePlayer

/-! ### Every frame once -/

namespace State

/-- The walk through the frames of a folded state lists each of them once. -/
theorem perm_walk (events : List Event) (count : Nat) :
    ((ofPrefix events count).forest.walk.map Forest.Visit.frame).Perm
      (ofPrefix events count).frames.ids := by
  have dated := dated_ofPrefix events count
  obtain ⟨visits, hvisits⟩ := Forest.exists_preorder dated 0 (ofPrefix events count).forest.roots
  have hwalk : (ofPrefix events count).forest.walk = visits := by
    rw [Forest.walk, forest, hvisits.walk?_eq_some dated, Option.getD_some]
  rw [hwalk]
  exact hvisits.perm_ids dated

/-- The order of the tabs lists each frame of a state once. -/
theorem perm_frameOrder (state : State) : state.frameOrder.Perm state.frames.ids :=
  (List.mergeSort_perm _ _).map Frame.id

theorem mem_frameOrder_iff {state : State} {id : FrameId} :
    id ∈ state.frameOrder ↔ (state.frame? id).isSome = true :=
  state.perm_frameOrder.mem_iff.trans FrameTable.mem_ids_iff

/-- Every visit of the walk has a row. -/
theorem frame_treeRows (events : List Event) (count : Nat) (selected : Option FrameId) :
    ((ofPrefix events count).treeRows selected).map TreeRow.frame
      = (ofPrefix events count).forest.walk.map Forest.Visit.frame := by
  have hmem : ∀ visit ∈ (ofPrefix events count).forest.walk,
      ((ofPrefix events count).frame? visit.frame).isSome = true := fun visit hvisit =>
    FrameTable.mem_ids_iff.1 ((perm_walk events count).subset (List.mem_map_of_mem hvisit))
  unfold treeRows
  generalize (ofPrefix events count).forest.walk = visits at hmem ⊢
  induction visits with
  | nil => rfl
  | cons visit rest ih =>
      obtain ⟨hvisit, hrest⟩ := List.forall_mem_cons.1 hmem
      obtain ⟨frame, hframe⟩ := Option.isSome_iff_exists.1 hvisit
      have hid : frame.id = visit.frame := FrameTable.id_of_find? hframe
      rw [List.filterMap_cons_some (by rw [hframe]; rfl), List.map_cons, List.map_cons, ih hrest,
        ← hid]
      rfl

/-- Every frame in the order of the tabs has a tab. -/
theorem frame_tabs (state : State) (selected : Option FrameId) :
    (state.tabs selected).map FrameTab.frame = state.frameOrder := by
  have hmem : ∀ id ∈ state.frameOrder, (state.frame? id).isSome = true :=
    fun id => mem_frameOrder_iff.1
  unfold tabs
  generalize state.frameOrder = order at hmem ⊢
  induction order with
  | nil => rfl
  | cons id rest ih =>
      obtain ⟨hid, hrest⟩ := List.forall_mem_cons.1 hmem
      obtain ⟨frame, hframe⟩ := Option.isSome_iff_exists.1 hid
      have hframeId : frame.id = id := FrameTable.id_of_find? hframe
      rw [List.filterMap_cons_some hframe, List.map_cons, List.map_cons, ih hrest, ← hframeId]
      rfl

theorem selected_of_mem_treeRows {state : State} {selected : Option FrameId} {row : TreeRow}
    (h : row ∈ state.treeRows selected) : row.selected = (selected == some row.frame) := by
  obtain ⟨visit, -, hrow⟩ := List.mem_filterMap.1 h
  obtain ⟨frame, -, rfl⟩ := Option.map_eq_some_iff.1 hrow
  rfl

theorem selected_of_mem_tabs {state : State} {selected : Option FrameId} {tab : FrameTab}
    (h : tab ∈ state.tabs selected) : tab.selected = (selected == some tab.frame) := by
  obtain ⟨frame, -, rfl⟩ := List.mem_map.1 h
  rfl

end State

/-! ### One of them selected -/

/-- Of things that stand for frames, every frame once, exactly the one is selected that stands for
the selected frame. -/
theorem filter_selected {α : Type} {things : List α} {frame : α → FrameId} {selected : α → Bool}
    {id : FrameId} {ids : List FrameId} (flag : ∀ thing ∈ things,
      selected thing = (some id == some (frame thing)))
    (once : (things.map frame).Perm ids) (nodup : ids.Nodup) (hid : id ∈ ids) :
    (things.filter selected).map frame = [id] := by
  have hcount : (things.map frame).count id = 1 := by
    rw [once.count_eq, nodup.count, if_pos hid]
  have hflag : things.filter selected = things.filter ((· == id) ∘ frame) := by
    refine List.filter_congr fun thing hthing => (flag thing hthing).trans ?_
    rw [Option.some_beq_some, Function.comp_apply, Bool.beq_comm]
  rw [hflag, ← List.filter_map, List.filter_beq, hcount, List.replicate_one]

/-- **A view puts one frame on show.** -/
structure View.Spotlights (view : View) (frame : Frame) : Prop where
  /-- Exactly one row of the tree is selected, and it is the one of the frame. -/
  row : (view.tree.filter TreeRow.selected).map TreeRow.frame = [frame.id]
  /-- Exactly one tab is selected, and it is the one of the frame. -/
  tab : (view.tabs.filter FrameTab.selected).map FrameTab.frame = [frame.id]
  /-- The locals on show are those of the frame, in their order and with their values. -/
  locals_frame : view.locals.frame = some frame.id
  locals_function : view.locals.function = frame.function
  locals_rows : view.locals.rows.map (fun row => (row.name, row.value))
    = frame.locals.toList.map fun (name, value) => (name, value.compress)

/-- **The view of a folded state puts the selected frame on show**, if it exists there. -/
theorem View.spotlights_build {events : List Event} {count : Nat} {selection : Selection}
    {id : FrameId} {frame : Frame} (log : Log) (cursor : Cursor) (change : Change)
    (resolves : selection.resolve (State.ofPrefix events count) = some id)
    (hframe : (State.ofPrefix events count).frame? id = some frame) :
    (View.build log (State.ofPrefix events count) cursor change selection).Spotlights frame := by
  obtain rfl : frame.id = id := FrameTable.id_of_find? hframe
  have nodup := FrameTable.nodup_of_pairwise_lt (State.ofPrefix events count).frames.pairwise_ids
  have hid : frame.id ∈ (State.ofPrefix events count).frames.ids :=
    FrameTable.mem_ids_iff.2 (Option.isSome_of_eq_some hframe)
  have hlocals : (View.build log (State.ofPrefix events count) cursor change selection).locals
      = .ofFrame change frame := by
    simp only [View.build, LocalsTable.build, resolves, Option.bind_some, hframe]
  refine ⟨?_, ?_, ?_, ?_, ?_⟩
  · simp only [View.build, resolves]
    refine filter_selected (fun _ => State.selected_of_mem_treeRows) ?_ nodup hid
    rw [State.frame_treeRows]
    exact State.perm_walk events count
  · simp only [View.build, resolves]
    refine filter_selected (fun _ => State.selected_of_mem_tabs) ?_ nodup hid
    rw [State.frame_tabs]
    exact State.perm_frameOrder _
  · rw [hlocals]
    rfl
  · rw [hlocals]
    rfl
  · rw [hlocals, LocalsTable.ofFrame, List.map_map]
    rfl

end TracePlayer
