/-
**The walk through the call forest.**

The walk keeps a stack: the frame on top is met, and its children take its place.  Nothing in the
loop says that it ends, nor that it meets every frame.  Both hold because a frame began before its
children: the frames below a frame are met after finitely many turns, and a frame is met as often as
it is a root, plus as often as its parent is met.

Main definitions:

* `Forest.Preorder`: some frames, each followed by everything below it;
* `Forest.Shows`: **what the walk shows of a table of frames**.

Main results:

* `Forest.Preorder.walkStack?_append`: a walk with some frames on top of the stack meets them in
  pre-order and goes on with the rest of the stack;
* `Forest.exists_preorder`: everything below some frames can be met in pre-order;
* `Forest.Preorder.count_eq_one`: a pre-order from the roots meets every frame once;
* `State.shows_walk_ofPrefix`: **the walk through the frames of a folded state ends, and shows
  them all**.
-/
import TracePlayer.Proofs.Program.Forest

set_option autoImplicit false

namespace TracePlayer

namespace Forest

/-! ### Pre-order -/

/-- **Pre-order**: the given frames at a level, each followed by everything below it. -/
inductive Preorder (forest : Forest) : Nat → List FrameId → List Visit → Prop
  /-- There are no frames to meet. -/
  | nil (level : Nat) : Preorder forest level [] []
  /-- A frame is met, then its children one level further down, then the other frames. -/
  | cons {level : Nat} {id : FrameId} {rest : List FrameId} {below others : List Visit}
      (hbelow : Preorder forest (level + 1) (forest.children id) below)
      (hothers : Preorder forest level rest others) :
      Preorder forest level (id :: rest) (⟨id, level⟩ :: (below ++ others))

variable {forest : Forest} {frames : FrameTable} {bound level : Nat} {id : FrameId}
  {ids : List FrameId} {visits : List Visit}

/-- **A walk with some frames on top of the stack meets them in pre-order**, takes a turn for each
frame that it meets, and goes on with the rest of the stack. -/
theorem Preorder.walkStack?_append (h : forest.Preorder level ids visits) (turns : Nat)
    (stack : List Visit) :
    forest.walkStack? (turns + visits.length) (ids.map (⟨·, level⟩) ++ stack)
      = (forest.walkStack? turns stack).map (visits ++ ·) := by
  induction h generalizing turns stack with
  | nil => simp
  | @cons level id rest below others _ _ ihbelow ihothers =>
      have hturns : turns + (⟨id, level⟩ :: (below ++ others) : List Visit).length
          = turns + others.length + below.length + 1 := by
        rw [List.length_cons, List.length_append]
        omega
      rw [hturns, List.map_cons, List.cons_append, walkStack?, Forest.below, ihbelow, ihothers,
        Option.map_map, Option.map_map]
      exact congrArg (Option.map · _) (funext fun shown => by simp)

/-- Some frames can be met in pre-order if everything below each of them can. -/
theorem exists_preorder_of_forall
    (h : ∀ id ∈ ids, ∃ below, forest.Preorder (level + 1) (forest.children id) below) :
    ∃ visits, forest.Preorder level ids visits := by
  induction ids with
  | nil => exact ⟨[], .nil level⟩
  | cons id rest ih =>
      obtain ⟨⟨below, hbelow⟩, hrest⟩ := List.forall_mem_cons.1 h
      obtain ⟨others, hothers⟩ := ih hrest
      exact ⟨_, .cons hbelow hothers⟩

/-- Everything below a frame can be met in pre-order. -/
theorem exists_preorder_children (dated : frames.Dated bound) (level : Nat) (id : FrameId) :
    ∃ below, (ofFrames frames).Preorder level ((ofFrames frames).children id) below := by
  -- A child began after the frame and before the bound, so fewer steps are left to it.
  induction hleft : (frames.find? id).elim 0 (bound - ·.createdAt) using Nat.strongRecOn
    generalizing level id with
  | ind left ih =>
      refine exists_preorder_of_forall fun child hchild => ?_
      obtain ⟨frame, hframe, -, -, caller, hcaller, hlt⟩ :=
        (parentOf_eq_some_iff dated).1 (mem_children_iff.1 hchild)
      have hbound := dated.createdAt_lt frame (FrameTable.find?_eq_some_iff.1 hframe).1
      refine ih _ ?_ (level + 1) child rfl
      rw [← hleft, hframe, hcaller, Option.elim_some, Option.elim_some]
      omega

/-- **Any frames can be met in pre-order**, with everything below them. -/
theorem exists_preorder (dated : frames.Dated bound) (level : Nat) (ids : List FrameId) :
    ∃ visits, (ofFrames frames).Preorder level ids visits :=
  exists_preorder_of_forall fun id _ => exists_preorder_children dated (level + 1) id

/-! ### How often a frame is met -/

/-- A frame is met as often as it stands among the given ones, plus as often as its parent is
met. -/
theorem Preorder.count_eq (h : (ofFrames frames).Preorder level ids visits) (id : FrameId) :
    (visits.map Visit.frame).count id
      = ids.count id
        + (parentOf frames id).elim 0 fun parent => (visits.map Visit.frame).count parent := by
  induction h with
  | nil => cases parentOf frames id <;> rfl
  | @cons level top rest below others _ _ ihbelow ihothers =>
      simp only [List.map_cons, List.map_append, List.count_cons, List.count_append, ihbelow,
        ihothers, count_children, beq_iff_eq]
      cases parentOf frames id with
      | none => simp
      | some parent =>
          simp only [Option.elim_some, Option.some_inj, eq_comm (a := top) (b := parent)]
          omega

/-- A pre-order from the roots meets every frame once. -/
theorem Preorder.count_eq_one (dated : frames.Dated bound)
    (h : (ofFrames frames).Preorder level (ofFrames frames).roots visits) {frame : Frame}
    (hframe : frame ∈ frames.toList) : (visits.map Visit.frame).count frame.id = 1 := by
  -- A parent began before the frame, so the induction is on the beginning of the frame.
  induction hcreated : frame.createdAt using Nat.strongRecOn generalizing frame with
  | ind created ih =>
      have hmem : frame.id ∈ frames.ids := List.mem_map_of_mem hframe
      rw [h.count_eq, count_roots]
      cases hparent : parentOf frames frame.id with
      | none => simp [hmem]
      | some parent =>
          obtain ⟨other, hother, -, -, caller, hcaller, hlt⟩ :=
            (parentOf_eq_some_iff dated).1 hparent
          obtain rfl := Option.some_inj.1 ((FrameTable.find?_of_mem hframe).symm.trans hother)
          obtain ⟨hcallermem, rfl⟩ := FrameTable.find?_eq_some_iff.1 hcaller
          simpa using ih _ (hcreated ▸ hlt) hcallermem rfl

/-- A pre-order from the roots meets no other number than those of the frames. -/
theorem Preorder.count_eq_zero (h : (ofFrames frames).Preorder level (ofFrames frames).roots visits)
    (hid : id ∉ frames.ids) : (visits.map Visit.frame).count id = 0 := by
  rw [h.count_eq, count_roots, if_neg fun hroot => hid hroot.1]
  cases hparent : parentOf frames id with
  | none => rfl
  | some parent => exact absurd (mem_ids_of_parentOf hparent).1 hid

/-- A pre-order from the roots meets the frames of the table, in some order. -/
theorem Preorder.perm_ids (dated : frames.Dated bound)
    (h : (ofFrames frames).Preorder level (ofFrames frames).roots visits) :
    (visits.map Visit.frame).Perm frames.ids := by
  refine List.perm_iff_count.2 fun id => ?_
  rw [(FrameTable.nodup_of_pairwise_lt frames.pairwise_ids).count]
  split
  · next hid =>
      obtain ⟨frame, hframe, rfl⟩ := List.mem_map.1 hid
      exact h.count_eq_one dated hframe
  · next hid => exact h.count_eq_zero hid

theorem Preorder.length_eq (dated : frames.Dated bound)
    (h : (ofFrames frames).Preorder level (ofFrames frames).roots visits) :
    visits.length = frames.size := by
  simpa [FrameTable.ids, FrameTable.size] using (h.perm_ids dated).length_eq

/-- A walk from the roots meets what stands in a pre-order from the roots. -/
theorem Preorder.walk?_eq_some (dated : frames.Dated bound)
    (h : (ofFrames frames).Preorder 0 (ofFrames frames).roots visits) :
    (ofFrames frames).walk? = some visits := by
  have hlength : (ofFrames frames).entries.length = 0 + visits.length := by
    rw [Nat.zero_add, h.length_eq dated]
    exact List.length_map _
  have hwalk := h.walkStack?_append 0 []
  rw [List.append_nil, walkStack?, Option.map_some, List.append_nil] at hwalk
  rw [walk?, hlength, hwalk]

/-! ### What the walk shows -/

/-- **What a walk shows of a table of frames.** -/
structure Shows (forest : Forest) (frames : FrameTable) (visits : List Visit) : Prop where
  /-- Every frame is met exactly once, and nothing else is met. -/
  once : ∀ id, (visits.map Visit.frame).count id = if (frames.find? id).isSome then 1 else 0
  /-- A frame is a child of its recorded parent if this is another frame that began earlier, and of
  no other frame. -/
  child : ∀ id parent, id ∈ forest.children parent ↔
    ∃ frame, frames.find? id = some frame ∧ frame.parent = some parent ∧ parent ≠ id ∧
      ∃ caller, frames.find? parent = some caller ∧ caller.createdAt < frame.createdAt
  /-- Every other frame is a root. -/
  root : ∀ id, id ∈ forest.roots ↔
    (frames.find? id).isSome = true ∧ ∀ parent, id ∉ forest.children parent
  /-- The roots ascend. -/
  roots_ascend : forest.roots.Pairwise (· < ·)
  /-- So do the children of each frame. -/
  children_ascend : ∀ id, (forest.children id).Pairwise (· < ·)
  /-- The frames are met in pre-order, the roots at level `0`. -/
  preorder : forest.Preorder 0 forest.roots visits
  /-- The forest counts as many frames as there are. -/
  size : forest.size = frames.size

/-- A pre-order from the roots shows the table, if its frames began one after the other. -/
theorem Preorder.shows (dated : frames.Dated bound)
    (h : (ofFrames frames).Preorder 0 (ofFrames frames).roots visits) :
    (ofFrames frames).Shows frames visits where
  once id := by
    simp only [← FrameTable.mem_ids_iff]
    split
    · next hid =>
        obtain ⟨frame, hframe, rfl⟩ := List.mem_map.1 hid
        exact h.count_eq_one dated hframe
    · next hid => exact h.count_eq_zero hid
  child id parent := mem_children_iff.trans (parentOf_eq_some_iff dated)
  root id := by
    rw [mem_roots_iff, FrameTable.mem_ids_iff, Option.eq_none_iff_forall_ne_some]
    simp only [mem_children_iff, ne_eq]
  roots_ascend := pairwise_roots frames
  children_ascend := pairwise_children frames
  preorder := h
  size := size_ofFrames frames

end Forest

/-- **The walk through the frames of a folded state ends, and shows them all**: every frame once and
in pre-order, below the frame that called it if that is another one and began earlier. -/
theorem State.shows_walk_ofPrefix (events : List Event) (count : Nat) :
    ∃ visits, (ofPrefix events count).forest.walk? = some visits ∧
      (ofPrefix events count).forest.Shows (ofPrefix events count).frames visits := by
  have dated := dated_ofPrefix events count
  rw [forest]
  generalize (ofPrefix events count).frames = frames at *
  obtain ⟨visits, hvisits⟩ := Forest.exists_preorder dated 0 (Forest.ofFrames frames).roots
  exact ⟨visits, hvisits.walk?_eq_some dated, hvisits.shows dated⟩

/-- Of two frames that name each other as callers, the one that began first is a root. -/
example : (State.ofPrefix [{ Event.plain 0 .call 2 with parent := some 1 },
    { Event.plain 1 .call 1 with parent := some 2 }] 2).forest.walk? = some [⟨2, 0⟩, ⟨1, 1⟩] := by
  decide +kernel

end TracePlayer
