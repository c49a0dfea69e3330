/-
**The call forest only grows at its leaves.**

A frame names its caller when it begins, and the caller counts only if it had begun by then.  So a
frame that begins later is never hung above one that is already there, and what the forest of a step
shows is the forest of any later step with the later frames left out.

Main definitions:

* `Forest.restrict`: the part of a forest that some frames make up;
* `Forest.PartOf`: **a forest, and the walk through it, is a part of a larger one**.

Main results:

* `Forest.Preorder.restrict`: frames can be left out of a pre-order together with all that is below
  them;
* `State.parentOf_ofPrefix`: later events do not hang a frame somewhere else;
* `State.partOf_atStep`: **the call forest of a step is a part of that of every later one**.
-/
import TracePlayer.Proofs.Program.Growth
import TracePlayer.Proofs.Program.Walk

set_option autoImplicit false

namespace TracePlayer

namespace Forest

/-! ### Parts of a forest -/

/-- The part of a forest that the kept frames make up. -/
def restrict (forest : Forest) (kept : FrameId → Bool) : Forest :=
  ⟨forest.entries.filter fun entry => kept entry.frame⟩

/-- **A forest is the part of another one that the kept frames make up**, and so is the walk through
it. -/
structure PartOf (early late : Forest) (kept : FrameId → Bool) : Prop where
  /-- A frame that is kept is a root in both or in neither. -/
  root : ∀ id, kept id = true → (id ∈ early.roots ↔ id ∈ late.roots)
  /-- A frame that is kept hangs below the same frame in both. -/
  child : ∀ id parent, kept id = true → (id ∈ early.children parent ↔ id ∈ late.children parent)
  /-- Nothing else hangs in the smaller one. -/
  forest : early = late.restrict kept
  /-- Its walk meets what the walk through the larger one meets, at the same levels and in the same
  order, without the other frames. -/
  walk : ∃ visits, late.walk? = some visits ∧
    early.walk? = some (visits.filter fun visit => kept visit.frame)

variable {forest : Forest} {frames : FrameTable} {kept : FrameId → Bool} {bound level : Nat}
  {id : FrameId} {ids : List FrameId} {visits : List Visit}

/-- The frames of a part whose entries have a property are the kept ones of those of the whole. -/
theorem filter_entries_restrict (forest : Forest) (kept : FrameId → Bool)
    (property : Entry → Bool) :
    ((forest.restrict kept).entries.filter property).map Entry.frame
      = ((forest.entries.filter property).map Entry.frame).filter kept := by
  rw [restrict, List.filter_map, List.filter_filter, List.filter_filter]
  exact congrArg (List.map _) (List.filter_congr fun entry _ => Bool.and_comm _ _)

theorem roots_restrict (forest : Forest) (kept : FrameId → Bool) :
    (forest.restrict kept).roots = forest.roots.filter kept :=
  forest.filter_entries_restrict kept _

theorem children_restrict (forest : Forest) (kept : FrameId → Bool) (parent : FrameId) :
    (forest.restrict kept).children parent = (forest.children parent).filter kept :=
  forest.filter_entries_restrict kept _

/-- **Frames can be left out of a pre-order**, as long as all that is below them is left out too. -/
theorem Preorder.restrict (h : forest.Preorder level ids visits)
    (closed : ∀ id parent, id ∈ forest.children parent → kept id = true → kept parent = true) :
    (forest.restrict kept).Preorder level (ids.filter kept)
      (visits.filter fun visit => kept visit.frame) := by
  induction h with
  | nil level => exact .nil level
  | @cons level id rest below others _ _ ihbelow ihothers =>
      rw [List.filter_cons, List.filter_cons, List.filter_append]
      rw [← children_restrict] at ihbelow
      cases hkept : kept id with
      | true => exact .cons ihbelow ihothers
      | false =>
          -- No child is kept, so nothing remains of what was met below the frame.
          have hnone : (forest.restrict kept).children id = [] := by
            rw [children_restrict]
            refine List.filter_eq_nil_iff.2 fun child hchild hkeptchild => ?_
            rw [closed child id hchild hkeptchild] at hkept
            cases hkept
          rw [hnone] at ihbelow
          generalize below.filter (fun visit => kept visit.frame) = left at ihbelow
          cases ihbelow
          exact ihothers

/-! ### The entries of a forest -/

theorem mem_entries_iff {entry : Entry} :
    entry ∈ (ofFrames frames).entries ↔
      entry.frame ∈ frames.ids ∧ parentOf frames entry.frame = entry.parent := by
  obtain ⟨id, parent⟩ := entry
  simp only [ofFrames, FrameTable.ids, List.mem_map, Entry.mk.injEq]
  constructor
  · rintro ⟨frame, hmem, rfl, rfl⟩
    exact ⟨⟨frame, hmem, rfl⟩, by rw [parentOf, FrameTable.find?_of_mem hmem, Option.bind_some]⟩
  · rintro ⟨⟨frame, hmem, rfl⟩, hparent⟩
    rw [parentOf, FrameTable.find?_of_mem hmem, Option.bind_some] at hparent
    exact ⟨frame, hmem, rfl, hparent⟩

theorem pairwise_entries (frames : FrameTable) :
    (ofFrames frames).entries.Pairwise fun a b => a.frame < b.frame :=
  List.pairwise_map.2 frames.sorted

end Forest

/-! ### The forests of a log -/

namespace State

variable {events : List Event} {few many : Nat} {id : FrameId}

/-- A frame that began within the first events is there after them. -/
theorem mem_ids_of_createdAt_lt {frame : Frame}
    (h : frame ∈ (ofPrefix events many).frames.toList) (hfew : frame.createdAt < few) :
    frame.id ∈ (ofPrefix events few).frames.ids := by
  obtain ⟨event, hevent, hframe⟩ := getElem?_createdAt h
  have hplace : (events.take few)[frame.createdAt]? = some event := by
    rw [List.getElem?_take] at hevent
    split at hevent
    · rw [List.getElem?_take_of_lt hfew, hevent]
    · cases hevent
  refine FrameTable.mem_ids_iff.2 (((reads_applyAll (events.take few)).mentioned frame.id).2 ?_)
  exact ⟨event, List.mem_of_getElem? hplace, hframe⟩

/-- **Later events do not hang a frame somewhere else.** -/
theorem parentOf_ofPrefix (events : List Event) (h : few ≤ many)
    (hid : id ∈ (ofPrefix events few).frames.ids) :
    Forest.parentOf (ofPrefix events few).frames id
      = Forest.parentOf (ofPrefix events many).frames id := by
  have contained := contained_ofPrefix events h
  refine Option.ext fun parent => ?_
  rw [Forest.parentOf_eq_some_iff (dated_ofPrefix events few),
    Forest.parentOf_eq_some_iff (dated_ofPrefix events many)]
  constructor
  · rintro ⟨frame, hframe, hparent, hne, caller, hcaller, hlt⟩
    obtain ⟨later, hlater, hsame⟩ := contained.frame id frame hframe
    obtain ⟨lateCaller, hlateCaller, hsameCaller⟩ := contained.frame parent caller hcaller
    refine ⟨later, hlater, hsame.parent.trans hparent, hne, lateCaller, hlateCaller, ?_⟩
    rwa [hsameCaller.createdAt, hsame.createdAt]
  · rintro ⟨later, hlater, hparent, hne, lateCaller, hlateCaller, hlt⟩
    obtain ⟨frame, hframe⟩ := Option.isSome_iff_exists.1 (FrameTable.mem_ids_iff.1 hid)
    obtain ⟨other, hother, hsame⟩ := contained.frame id frame hframe
    obtain rfl : later = other := Option.some_inj.1 (hlater.symm.trans hother)
    -- The caller began before the frame, which itself began within the first events.
    have hbegan : frame.createdAt < few :=
      Nat.lt_of_lt_of_le ((dated_ofPrefix events few).createdAt_lt frame
        (FrameTable.find?_eq_some_iff.1 hframe).1) (List.length_take_le _ _)
    obtain ⟨hcallermem, hcallerid⟩ := FrameTable.find?_eq_some_iff.1 hlateCaller
    have hcallerfew : lateCaller.createdAt < few := by
      rw [hsame.createdAt] at hlt
      exact Nat.lt_trans hlt hbegan
    have hcallerids := mem_ids_of_createdAt_lt hcallermem hcallerfew
    rw [hcallerid] at hcallerids
    obtain ⟨caller, hcaller⟩ := Option.isSome_iff_exists.1 (FrameTable.mem_ids_iff.1 hcallerids)
    obtain ⟨other, hother, hsameCaller⟩ := contained.frame parent caller hcaller
    obtain rfl : lateCaller = other := Option.some_inj.1 (hlateCaller.symm.trans hother)
    refine ⟨frame, hframe, hsame.parent.symm.trans hparent, hne, caller, hcaller, ?_⟩
    rwa [← hsameCaller.createdAt, ← hsame.createdAt]

/-- Whether a frame has begun. -/
def hasBegun (state : State) (id : FrameId) : Bool := (state.frame? id).isSome

theorem hasBegun_iff {state : State} : state.hasBegun id = true ↔ id ∈ state.frames.ids :=
  FrameTable.mem_ids_iff.symm

/-- The forest after the first events is the part of any later one that their frames make up. -/
theorem forest_ofPrefix_eq_restrict (events : List Event) (h : few ≤ many) :
    (ofPrefix events few).forest
      = (ofPrefix events many).forest.restrict (ofPrefix events few).hasBegun := by
  have hentries : (Forest.ofFrames (ofPrefix events few).frames).entries
      = (Forest.ofFrames (ofPrefix events many).frames).entries.filter fun entry =>
          (ofPrefix events few).hasBegun entry.frame := by
    refine FrameTable.eq_of_ascending Forest.Entry.frame (Forest.pairwise_entries _)
      ((Forest.pairwise_entries _).filter _) fun entry => ?_
    rw [List.mem_filter, Forest.mem_entries_iff, Forest.mem_entries_iff, hasBegun_iff]
    constructor
    · rintro ⟨hid, hparent⟩
      obtain ⟨frame, hframe⟩ := Option.isSome_iff_exists.1 (FrameTable.mem_ids_iff.1 hid)
      obtain ⟨later, hlater, -⟩ := (contained_ofPrefix events h).frame entry.frame frame hframe
      have hlate := FrameTable.mem_ids_iff.2 (Option.isSome_of_eq_some hlater)
      exact ⟨⟨hlate, (parentOf_ofPrefix events h hid).symm.trans hparent⟩, hid⟩
    · rintro ⟨⟨-, hparent⟩, hid⟩
      exact ⟨hid, (parentOf_ofPrefix events h hid).trans hparent⟩
  exact congrArg Forest.mk hentries

/-- The call forest after the first events is a part of the one after more of them. -/
theorem partOf_ofPrefix (events : List Event) (h : few ≤ many) :
    (ofPrefix events few).forest.PartOf (ofPrefix events many).forest
      (ofPrefix events few).hasBegun := by
  have hforest := forest_ofPrefix_eq_restrict events h
  -- A frame that has begun hangs below one that has begun.
  have closed : ∀ id parent, id ∈ (ofPrefix events many).forest.children parent →
      (ofPrefix events few).hasBegun id = true → (ofPrefix events few).hasBegun parent = true := by
    intro id parent hchild hid
    have hparent := Forest.mem_children_iff.1 hchild
    rw [← parentOf_ofPrefix events h (hasBegun_iff.1 hid)] at hparent
    exact hasBegun_iff.2 (Forest.mem_ids_of_parentOf hparent).2
  refine ⟨fun id hid => ?_, fun id parent hid => ?_, hforest, ?_⟩
  · rw [hforest, Forest.roots_restrict, List.mem_filter, and_iff_left hid]
  · rw [hforest, Forest.children_restrict, List.mem_filter, and_iff_left hid]
  · obtain ⟨visits, hvisits⟩ := Forest.exists_preorder (dated_ofPrefix events many) 0
      (ofPrefix events many).forest.roots
    refine ⟨visits, hvisits.walk?_eq_some (dated_ofPrefix events many), ?_⟩
    have hpart := hvisits.restrict closed
    rw [← Forest.roots_restrict, ← forest, ← hforest] at hpart
    exact hpart.walk?_eq_some (dated_ofPrefix events few)

/-- **The call forest of a step is a part of that of every later one**: a frame keeps its parent or
stays a root, and the walk is the later one with the later frames left out. -/
theorem partOf_atStep (events : List Event) {a b : Int} (h : a ≤ b) :
    (atStep events a).forest.PartOf (atStep events b).forest (atStep events a).hasBegun :=
  partOf_ofPrefix events (eventsThrough_mono events.length h)

/-- A frame whose caller begins only after it, and two more frames below either of them. -/
def lateCaller : List Event :=
  [{ Event.plain 0 .call 2 with parent := some 1 }, Event.plain 1 .call 1,
    { Event.plain 2 .call 3 with parent := some 1 },
    { Event.plain 3 .call 4 with parent := some 2 }]

/-- The late caller is a root beside the frame that names it, and stays so when both of them get
something to call. -/
theorem partOf_atStep_lateCaller :
    (1 : Int) ≤ 3 ∧
      (atStep lateCaller 1).forest.walk? = some [⟨1, 0⟩, ⟨2, 0⟩] ∧
      (atStep lateCaller 3).forest.walk? = some [⟨1, 0⟩, ⟨3, 1⟩, ⟨2, 0⟩, ⟨4, 1⟩] ∧
      (atStep lateCaller 1).forest.PartOf (atStep lateCaller 3).forest
        (atStep lateCaller 1).hasBegun :=
  ⟨by decide, by decide +kernel, by decide +kernel, partOf_atStep lateCaller (by decide)⟩

end State

end TracePlayer
