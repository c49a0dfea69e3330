/-
**Tables of frames as finite maps.**

A table holds at most one frame of each number, so looking a number up and meeting a frame in the
table are the same thing.

Main results:

* `FrameTable.find?_eq_some_iff`: looking a number up finds the frame of the table that carries it;
* `FrameTable.eq_of_ascending`, `FrameTable.ext_find?`: an ascending list is determined by its
  members, and a table is determined by what is found under each number;
* `FrameTable.flatMap_put`: a list gathered over a table to which only one frame contributes.
-/
import TracePlayer.Program.Frame

set_option autoImplicit false

namespace TracePlayer.FrameTable

/-- Two frames of a table with the same number are the same frame. -/
theorem eq_of_id_eq {table : FrameTable} {a b : Frame} (ha : a ∈ table.toList)
    (hb : b ∈ table.toList) (h : a.id = b.id) : a = b := by
  obtain ⟨frames, sorted⟩ := table
  induction frames with
  | nil => simp at ha
  | cons head rest ih =>
      obtain ⟨hhead, hrest⟩ := List.pairwise_cons.1 sorted
      rcases List.mem_cons.1 ha with e | ha <;> rcases List.mem_cons.1 hb with e' | hb
      · exact e.trans e'.symm
      · exact absurd (hhead b hb) (by rw [← h, e]; exact UInt64.lt_irrefl _)
      · exact absurd (hhead a ha) (by rw [h, e']; exact UInt64.lt_irrefl _)
      · exact ih hrest ha hb

theorem id_of_find? {table : FrameTable} {id : FrameId} {frame : Frame}
    (h : table.find? id = some frame) : frame.id = id := by
  simpa using List.find?_some h

/-- Looking a number up finds the frame of the table that carries it. -/
theorem find?_eq_some_iff {table : FrameTable} {id : FrameId} {frame : Frame} :
    table.find? id = some frame ↔ frame ∈ table.toList ∧ frame.id = id := by
  constructor
  · intro h
    exact ⟨List.mem_of_find?_eq_some h, id_of_find? h⟩
  · rintro ⟨hmem, rfl⟩
    obtain ⟨other, hother⟩ : ∃ other, table.find? frame.id = some other := by
      refine Option.isSome_iff_exists.1 (List.find?_isSome.2 ⟨frame, hmem, ?_⟩)
      exact beq_self_eq_true frame.id
    rw [hother, eq_of_id_eq (List.mem_of_find?_eq_some hother) hmem (id_of_find? hother)]

theorem find?_of_mem {table : FrameTable} {frame : Frame} (h : frame ∈ table.toList) :
    table.find? frame.id = some frame :=
  find?_eq_some_iff.2 ⟨h, rfl⟩

theorem mem_put (table : FrameTable) (frame : Frame) : frame ∈ (table.put frame).toList := by
  have hfind : (table.put frame).find? frame.id = some frame := by rw [find?_put, if_pos rfl]
  exact (find?_eq_some_iff.1 hfind).1

/-- Two lists that ascend by a number and have the same members are the same. -/
theorem eq_of_ascending {α : Type} (number : α → UInt64) {xs ys : List α}
    (hxs : xs.Pairwise fun a b => number a < number b)
    (hys : ys.Pairwise fun a b => number a < number b) (h : ∀ a, a ∈ xs ↔ a ∈ ys) : xs = ys := by
  have hnodup {zs : List α} (hzs : zs.Pairwise fun a b => number a < number b) : zs.Nodup :=
    hzs.imp fun hlt e => UInt64.ne_of_lt hlt (congrArg number e)
  have hperm := (List.perm_ext_iff_of_nodup (hnodup hxs) (hnodup hys)).2 h
  refine hperm.eq_of_pairwise (fun a b _ _ hab hba => ?_) hxs hys
  exact absurd (UInt64.lt_trans hab hba) (UInt64.lt_irrefl _)

/-- A table is determined by what is found under each number. -/
theorem ext_find? {a b : FrameTable} (h : ∀ id, a.find? id = b.find? id) : a = b := by
  refine FrameTable.ext (eq_of_ascending Frame.id a.sorted b.sorted fun frame => ?_)
  constructor
  · exact fun hmem => (find?_eq_some_iff.1 ((h frame.id).symm.trans (find?_of_mem hmem))).1
  · exact fun hmem => (find?_eq_some_iff.1 ((h frame.id).trans (find?_of_mem hmem))).1

/-- A list gathered over the frames of a table, to which only one of them contributes. -/
theorem flatMap_eq_of_mem {α : Type} {table : FrameTable} {frame : Frame} (f : Frame → List α)
    (hmem : frame ∈ table.toList)
    (hothers : ∀ other ∈ table.toList, other.id ≠ frame.id → f other = []) :
    table.toList.flatMap f = f frame := by
  obtain ⟨frames, sorted⟩ := table
  simp only at hmem hothers ⊢
  induction frames with
  | nil => simp at hmem
  | cons head rest ih =>
      obtain ⟨hhead, hrest⟩ := List.pairwise_cons.1 sorted
      rw [List.flatMap_cons]
      rcases List.mem_cons.1 hmem with rfl | hmem
      · have hnil : rest.flatMap f = [] := by
          refine List.flatMap_eq_nil_iff.2 fun other hother => ?_
          refine hothers other (List.mem_cons_of_mem _ hother) fun e => ?_
          exact absurd (hhead other hother) (e ▸ UInt64.lt_irrefl _)
        rw [hnil, List.append_nil]
      · have hne : head.id ≠ frame.id := UInt64.ne_of_lt (hhead frame hmem)
        rw [hothers head List.mem_cons_self hne, List.nil_append]
        exact ih hrest hmem fun other hother => hothers other (List.mem_cons_of_mem _ hother)

/-- A list gathered over a table into which a frame was put, when the other frames contribute
nothing. -/
theorem flatMap_put {α : Type} (table : FrameTable) (frame : Frame) (f : Frame → List α)
    (h : ∀ other ∈ table.toList, other.id ≠ frame.id → f other = []) :
    (table.put frame).toList.flatMap f = f frame := by
  refine flatMap_eq_of_mem f (mem_put table frame) fun other hother hne => ?_
  rcases mem_of_mem_putInto hother with rfl | hmem
  · exact absurd rfl hne
  · exact h other hmem hne

end TracePlayer.FrameTable
