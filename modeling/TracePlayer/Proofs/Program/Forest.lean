/-
**Frames and their places in the call forest.**

Every event of a log belongs to one frame, so no two frames of a folded state began at the same
step.  A frame therefore hangs below a frame that began strictly before it, and every frame has
exactly one place: among the roots, or among the children of one other frame.

Main definitions:

* `FrameTable.Dated`: the frames of a table began one after the other;
* `Forest.parentOf`: the parent of a frame in the forest, by number.

Main results:

* `State.dated_ofPrefix`: the frames of a folded state began one after the other;
* `Forest.parentIn_eq_some_iff`: **which frame a frame hangs below**;
* `Forest.mem_children_iff`, `Forest.mem_roots_iff`: the children and the roots of a forest;
* `Forest.perm_places`, `Forest.size_ofFrames`: every frame has exactly one place, so the forest
  counts as many frames as there are.
-/
import Mathlib.Data.List.Nodup
import TracePlayer.Program.Forest
import TracePlayer.Proofs.Program.Reading

set_option autoImplicit false

namespace TracePlayer

/-! ### When frames began -/

/-- **The frames of a table began one after the other**, all of them before a bound. -/
structure FrameTable.Dated (frames : FrameTable) (bound : Nat) : Prop where
  /-- No two frames began at the same step. -/
  eq_of_createdAt_eq : ∀ a ∈ frames.toList, ∀ b ∈ frames.toList,
    a.createdAt = b.createdAt → a = b
  /-- Every frame began before the bound. -/
  createdAt_lt : ∀ frame ∈ frames.toList, frame.createdAt < bound

/-- The event at which a frame of a folded state began is one of its own. -/
theorem State.getElem?_createdAt {events : List Event} {frame : Frame}
    (h : frame ∈ (initial.applyAll events).frames.toList) :
    ∃ event, events[frame.createdAt]? = some event ∧ event.frame = frame.id := by
  have hreads := (reads_applyAll events).frame frame.id frame (FrameTable.find?_of_mem h)
  obtain ⟨event, place, hhead, hid, -, -, -, hcreated⟩ := hreads.first
  obtain ⟨hplace, hframe⟩ := Frame.mem_eventsOf.1 (List.mem_of_head? hhead)
  exact ⟨event, hcreated ▸ hplace, hframe⟩

/-- **The frames of a folded state began one after the other.** -/
theorem State.dated_ofPrefix (events : List Event) (count : Nat) :
    (ofPrefix events count).frames.Dated (events.take count).length where
  eq_of_createdAt_eq a ha b hb h := by
    obtain ⟨event, hevent, hframe⟩ := getElem?_createdAt ha
    obtain ⟨other, hother, hframe'⟩ := getElem?_createdAt hb
    have he : event = other := Option.some_inj.1 (hevent.symm.trans (h ▸ hother))
    exact FrameTable.eq_of_id_eq ha hb (hframe.symm.trans (he ▸ hframe'))
  createdAt_lt frame hframe := by
    obtain ⟨event, hevent, -⟩ := getElem?_createdAt hframe
    exact (List.getElem?_eq_some_iff.1 hevent).1

namespace FrameTable

/-- The numbers of the frames, in ascending order. -/
def ids (frames : FrameTable) : List FrameId := frames.toList.map Frame.id

theorem pairwise_ids (frames : FrameTable) : frames.ids.Pairwise (· < ·) :=
  List.pairwise_map.2 frames.sorted

theorem nodup_of_pairwise_lt {ids : List FrameId} (h : ids.Pairwise (· < ·)) : ids.Nodup :=
  h.imp UInt64.ne_of_lt

theorem mem_ids_iff {frames : FrameTable} {id : FrameId} :
    id ∈ frames.ids ↔ (frames.find? id).isSome = true := by
  rw [Option.isSome_iff_exists, ids, List.mem_map]
  exact exists_congr fun frame => find?_eq_some_iff.symm

end FrameTable

namespace Forest

variable {frames : FrameTable} {bound : Nat} {id parent : FrameId}

/-! ### Places -/

/-- The parent of a frame in the forest, by number. -/
def parentOf (frames : FrameTable) (id : FrameId) : Option FrameId :=
  (frames.find? id).bind (parentIn frames)

/-- **A frame hangs below its recorded parent if and only if this is another frame of the table
that began before it.** -/
theorem parentIn_eq_some_iff (dated : frames.Dated bound) {frame : Frame}
    (hframe : frame ∈ frames.toList) :
    parentIn frames frame = some parent ↔
      frame.parent = some parent ∧ parent ≠ frame.id ∧
        ∃ caller, frames.find? parent = some caller ∧ caller.createdAt < frame.createdAt := by
  simp only [parentIn, Option.filter_eq_some_iff, Bool.and_eq_true, bne_iff_ne, Option.any_eq_true,
    decide_eq_true_eq]
  refine and_congr_right fun _ => and_congr_right fun hne => exists_congr fun caller => ?_
  refine and_congr_right fun hcaller =>
    ⟨fun hle => Nat.lt_of_le_of_ne hle fun heq => ?_, Nat.le_of_lt⟩
  obtain ⟨hmem, hid⟩ := FrameTable.find?_eq_some_iff.1 hcaller
  exact hne (hid ▸ congrArg Frame.id (dated.eq_of_createdAt_eq caller hmem frame hframe heq))

theorem parentOf_eq_some_iff (dated : frames.Dated bound) :
    parentOf frames id = some parent ↔
      ∃ frame, frames.find? id = some frame ∧ frame.parent = some parent ∧ parent ≠ id ∧
        ∃ caller, frames.find? parent = some caller ∧ caller.createdAt < frame.createdAt := by
  rw [parentOf, Option.bind_eq_some_iff]
  refine exists_congr fun frame => and_congr_right fun hframe => ?_
  obtain ⟨hmem, rfl⟩ := FrameTable.find?_eq_some_iff.1 hframe
  exact parentIn_eq_some_iff dated hmem

/-- A parent is a frame of the table, whatever the table. -/
theorem mem_ids_of_parentOf (h : parentOf frames id = some parent) :
    id ∈ frames.ids ∧ parent ∈ frames.ids := by
  obtain ⟨frame, hframe, hparent⟩ := Option.bind_eq_some_iff.1 h
  simp only [parentIn, Option.filter_eq_some_iff, Bool.and_eq_true, Option.any_eq_true] at hparent
  obtain ⟨-, -, caller, hcaller, -⟩ := hparent
  exact ⟨FrameTable.mem_ids_iff.2 (Option.isSome_of_eq_some hframe),
    FrameTable.mem_ids_iff.2 (Option.isSome_of_eq_some hcaller)⟩

/-! ### Children and roots -/

/-- The frames with a given property of their parent, by number: the common form of the roots and
of the children of one frame. -/
def withParent (frames : FrameTable) (property : Option FrameId → Bool) : List FrameId :=
  (frames.toList.filter fun frame => property (parentIn frames frame)).map Frame.id

theorem children_ofFrames (frames : FrameTable) (parent : FrameId) :
    (ofFrames frames).children parent = withParent frames (· == some parent) := by
  simp [ofFrames, children, withParent, List.filter_map, Function.comp_def]

theorem roots_ofFrames (frames : FrameTable) :
    (ofFrames frames).roots = withParent frames Option.isNone := by
  simp [ofFrames, roots, withParent, List.filter_map, Function.comp_def]

theorem pairwise_withParent (frames : FrameTable) (property : Option FrameId → Bool) :
    (withParent frames property).Pairwise (· < ·) :=
  frames.pairwise_ids.sublist (List.filter_sublist.map Frame.id)

theorem mem_withParent_iff {property : Option FrameId → Bool} :
    id ∈ withParent frames property ↔
      id ∈ frames.ids ∧ property (parentOf frames id) = true := by
  simp only [withParent, FrameTable.ids, List.mem_map, List.mem_filter]
  constructor
  · rintro ⟨frame, ⟨hmem, hproperty⟩, rfl⟩
    refine ⟨⟨frame, hmem, rfl⟩, ?_⟩
    rwa [parentOf, FrameTable.find?_of_mem hmem]
  · rintro ⟨⟨frame, hmem, rfl⟩, hproperty⟩
    rw [parentOf, FrameTable.find?_of_mem hmem] at hproperty
    exact ⟨frame, ⟨hmem, hproperty⟩, rfl⟩

/-- The children of a frame are the frames that hang below it. -/
theorem mem_children_iff :
    id ∈ (ofFrames frames).children parent ↔ parentOf frames id = some parent := by
  rw [children_ofFrames, mem_withParent_iff, beq_iff_eq]
  exact and_iff_right_of_imp fun h => (mem_ids_of_parentOf h).1

/-- The roots are the frames that hang below none. -/
theorem mem_roots_iff :
    id ∈ (ofFrames frames).roots ↔ id ∈ frames.ids ∧ parentOf frames id = none := by
  rw [roots_ofFrames, mem_withParent_iff, Option.isNone_iff_eq_none]

theorem pairwise_children (frames : FrameTable) (parent : FrameId) :
    ((ofFrames frames).children parent).Pairwise (· < ·) :=
  children_ofFrames frames parent ▸ pairwise_withParent frames _

theorem pairwise_roots (frames : FrameTable) : (ofFrames frames).roots.Pairwise (· < ·) :=
  roots_ofFrames frames ▸ pairwise_withParent frames _

theorem count_children (frames : FrameTable) (id parent : FrameId) :
    ((ofFrames frames).children parent).count id
      = if parentOf frames id = some parent then 1 else 0 := by
  rw [(FrameTable.nodup_of_pairwise_lt (pairwise_children frames parent)).count]
  exact if_congr mem_children_iff rfl rfl

theorem count_roots (frames : FrameTable) (id : FrameId) :
    (ofFrames frames).roots.count id
      = if id ∈ frames.ids ∧ parentOf frames id = none then 1 else 0 := by
  rw [(FrameTable.nodup_of_pairwise_lt (pairwise_roots frames)).count]
  exact if_congr mem_roots_iff rfl rfl

/-! ### The number of places -/

/-- The size counts the roots and the children of every frame. -/
theorem size_eq_length (forest : Forest) :
    forest.size =
      (forest.roots ++ forest.entries.flatMap fun entry => forest.children entry.frame).length := by
  unfold size families
  -- Families without children are left out of the count, and contribute nothing to the list.
  induction forest.entries with
  | nil => simp
  | cons entry rest ih =>
      rw [List.length_append, List.flatMap_cons, List.length_append]
      rw [List.length_append] at ih
      cases hchildren : forest.children entry.frame with
      | nil => simp [hchildren, ih]
      | cons child others => simp [hchildren, ih]; omega

theorem nodup_places (frames : FrameTable) :
    ((ofFrames frames).roots ++ frames.ids.flatMap (ofFrames frames).children).Nodup := by
  refine List.nodup_append'.2 ⟨FrameTable.nodup_of_pairwise_lt (pairwise_roots frames), ?_, ?_⟩
  · refine List.nodup_flatMap.2 ⟨fun parent _ => ?_, ?_⟩
    · exact FrameTable.nodup_of_pairwise_lt (pairwise_children frames parent)
    · refine frames.pairwise_ids.imp fun {a b} hlt id ha hb => UInt64.ne_of_lt hlt ?_
      exact Option.some_inj.1 ((mem_children_iff.1 ha).symm.trans (mem_children_iff.1 hb))
  · intro id hroot hchild
    obtain ⟨parent, -, hmem⟩ := List.mem_flatMap.1 hchild
    have hnone := (mem_roots_iff.1 hroot).2
    rw [mem_children_iff.1 hmem] at hnone
    cases hnone

/-- **Every frame has exactly one place**: among the roots or among the children of one frame. -/
theorem perm_places (frames : FrameTable) :
    ((ofFrames frames).roots ++ frames.ids.flatMap (ofFrames frames).children).Perm
      frames.ids := by
  refine (List.perm_ext_iff_of_nodup (nodup_places frames)
    (FrameTable.nodup_of_pairwise_lt frames.pairwise_ids)).2 fun id => ?_
  rw [List.mem_append, mem_roots_iff, List.mem_flatMap]
  constructor
  · rintro (⟨hmem, -⟩ | ⟨parent, -, hmem⟩)
    · exact hmem
    · exact (mem_ids_of_parentOf (mem_children_iff.1 hmem)).1
  · intro hmem
    cases hparent : parentOf frames id with
    | none => exact .inl ⟨hmem, rfl⟩
    | some parent =>
        exact .inr ⟨parent, (mem_ids_of_parentOf hparent).2, mem_children_iff.2 hparent⟩

/-- Roots and children are as many as there are frames. -/
theorem size_ofFrames (frames : FrameTable) : (ofFrames frames).size = frames.size := by
  have hentries : (ofFrames frames).entries.flatMap
      (fun entry => (ofFrames frames).children entry.frame)
        = frames.ids.flatMap (ofFrames frames).children := by
    simp [ofFrames, FrameTable.ids, List.flatMap_map]
  rw [size_eq_length, hentries, (perm_places frames).length_eq, FrameTable.ids, List.length_map,
    FrameTable.size]

end Forest

end TracePlayer
