/-
**Going round the frames.**

The keys that go from frame to frame move the selection along the order of the frames and around its
ends.  The order lists every frame of a state once, so a selected frame has one place in it, and
going on by some places is counting modulo the number of frames: moves add up, and a move by that
number is none at all.  What can be said of the keys follows from these two laws.

Main definitions:

* `Frame.Precedes`: a frame lies less deep than another one, or as deep with a smaller number;
* `State.OrderedBy`: **which list is the order of the frames of a state**;
* `Selection.StandsAt`: the place of a selection in the order of the frames;
* `Selection.visited`, `Selection.GoesRound`: the frames that one key leads to, again and again, and
  **what it means that the keys go round all of them**.

Main results:

* `State.orderedBy_frameOrder`: the order lists each frame once, in ascending order;
* `Selection.StandsAt.cycle`: a selection that goes on is at the place counted modulo the number of
  frames;
* `Selection.StandsAt.cycle_cycle`, `Selection.StandsAt.cycle_of_dvd`: **moves along the order add
  up**, and those by a multiple of the number of frames lead back;
* `Selection.goes_round`: **the keys go round all frames of a state**.
-/
import Mathlib.Data.List.Iterate
import Mathlib.Data.List.Permutation
import Mathlib.Data.List.Rotate
import TracePlayer.Proofs.Viewer.Spotlight

set_option autoImplicit false

namespace TracePlayer

/-! ### The order of the frames -/

/-- A frame lies less deep than another one, or as deep with a smaller number. -/
def Frame.Precedes (a b : Frame) : Prop := a.depth < b.depth ∨ a.depth = b.depth ∧ a.id < b.id

/-- **A list of numbers orders the frames of a state**: it has each of them once, those that lie
less deep first, and among those of one depth the smaller numbers first. -/
structure State.OrderedBy (state : State) (order : List FrameId) : Prop where
  count : ∀ id, order.count id = if (state.frame? id).isSome then 1 else 0
  ascending : order.Pairwise fun a b => ∃ first second,
    state.frame? a = some first ∧ state.frame? b = some second ∧ first.Precedes second

namespace Frame

theorem comesBefore_iff {a b : Frame} :
    a.comesBefore b = true ↔ a.depth < b.depth ∨ a.depth = b.depth ∧ a.id ≤ b.id := by
  simp only [comesBefore, Bool.or_eq_true, Bool.and_eq_true, decide_eq_true_eq, beq_iff_eq]

theorem comesBefore_trans (a b c : Frame) (hab : a.comesBefore b = true)
    (hbc : b.comesBefore c = true) : a.comesBefore c = true := by
  rw [comesBefore_iff] at *
  rcases hab with hab | ⟨hab, hab'⟩ <;> rcases hbc with hbc | ⟨hbc, hbc'⟩
  · exact .inl (UInt32.lt_trans hab hbc)
  · exact .inl (hbc ▸ hab)
  · exact .inl (hab ▸ hbc)
  · exact .inr ⟨hab.trans hbc, UInt64.le_trans hab' hbc'⟩

theorem comesBefore_total (a b : Frame) : (a.comesBefore b || b.comesBefore a) = true := by
  rw [Bool.or_eq_true, comesBefore_iff, comesBefore_iff]
  by_cases h : a.depth = b.depth
  · exact (UInt64.le_total a.id b.id).imp (fun hle => .inr ⟨h, hle⟩) fun hle => .inr ⟨h.symm, hle⟩
  · exact (UInt32.lt_or_lt_of_ne h).imp .inl .inl

/-- Of two frames with different numbers, the one that comes before the other precedes it. -/
theorem precedes_of_comesBefore {a b : Frame} (h : a.comesBefore b = true) (hne : a.id ≠ b.id) :
    a.Precedes b :=
  (comesBefore_iff.1 h).imp_right fun ⟨hdepth, hle⟩ => ⟨hdepth, UInt64.lt_of_le_of_ne hle hne⟩

end Frame

namespace State

theorem nodup_frameOrder (state : State) : state.frameOrder.Nodup :=
  state.perm_frameOrder.nodup_iff.2 (FrameTable.nodup_of_pairwise_lt state.frames.pairwise_ids)

theorem length_frameOrder (state : State) : state.frameOrder.length = state.frames.size :=
  state.perm_frameOrder.length_eq.trans (List.length_map _)

/-- **The order lists each frame of a state once, in ascending order.** -/
theorem orderedBy_frameOrder (state : State) : state.OrderedBy state.frameOrder where
  count id := by
    rw [state.nodup_frameOrder.count]
    simp only [mem_frameOrder_iff]
  ascending := by
    have sorted := List.pairwise_mergeSort Frame.comesBefore_trans Frame.comesBefore_total
      state.frames.toList
    have distinct := List.pairwise_map.1 state.nodup_frameOrder
    refine List.pairwise_map.2 ((sorted.and distinct).imp_of_mem ?_)
    rintro a b ha hb ⟨hle, hne⟩
    exact ⟨a, b, FrameTable.find?_of_mem (List.mem_mergeSort.1 ha),
      FrameTable.find?_of_mem (List.mem_mergeSort.1 hb), Frame.precedes_of_comesBefore hle hne⟩

end State

/-! ### Places in the order -/

namespace Selection

variable {selection other : Selection} {state : State} {place : Nat}

/-- The place of a selection in the order of the frames. -/
structure StandsAt (selection : Selection) (state : State) (place : Nat) : Prop where
  lt_size : place < state.frames.size
  getElem? : state.frameOrder[place]? = selection.selected

theorem resolve_eq_some_iff {id : FrameId} :
    selection.resolve state = some id ↔ selection.selected = some id ∧ id ∈ state.frameOrder := by
  rw [resolve, Option.filter_eq_some_iff, State.mem_frameOrder_iff]

/-- A selection has a place in the order if and only if the selected frame exists. -/
theorem exists_standsAt_iff :
    (∃ place, selection.StandsAt state place) ↔ (selection.resolve state).isSome = true := by
  rw [Option.isSome_iff_exists]
  constructor
  · rintro ⟨place, hlt, hplace⟩
    rw [← state.length_frameOrder] at hlt
    rw [List.getElem?_eq_getElem hlt] at hplace
    exact ⟨_, resolve_eq_some_iff.2 ⟨hplace.symm, List.getElem_mem hlt⟩⟩
  · rintro ⟨id, hid⟩
    obtain ⟨hselected, hmem⟩ := resolve_eq_some_iff.1 hid
    obtain ⟨place, hlt, rfl⟩ := List.getElem_of_mem hmem
    refine ⟨place, state.length_frameOrder ▸ hlt, ?_⟩
    rw [List.getElem?_eq_getElem hlt, hselected]

/-- The pin never changes when the selection goes from frame to frame. -/
theorem pinned_cycle (selection : Selection) (state : State) (places : Int) :
    (selection.cycle state places).pinned = selection.pinned := by
  simp only [cycle]
  split
  · rfl
  · split <;> rfl

namespace StandsAt

/-- The order has every frame once, so a selection is found at its own place. -/
theorem position_eq (h : selection.StandsAt state place) :
    selection.position state = some place := by
  obtain ⟨id, hid⟩ := Option.isSome_iff_exists.1 (exists_standsAt_iff.1 ⟨place, h⟩)
  have hlt : place < state.frameOrder.length := state.length_frameOrder ▸ h.lt_size
  have hplace : state.frameOrder[place] = id := by
    have := h.getElem?
    rw [(resolve_eq_some_iff.1 hid).1] at this
    exact (List.getElem?_eq_some_iff.1 this).2
  rw [position, hid, Option.bind_some, List.idxOf?_eq_some_iff]
  refine ⟨hlt, hplace, fun earlier hearlier heq => ?_⟩
  exact hearlier.ne ((state.nodup_frameOrder.getElem_inj_iff).1 (heq.trans hplace.symm))

/-- Selections at one place that agree in their pins are the same. -/
theorem ext (h : selection.StandsAt state place) (h' : other.StandsAt state place)
    (hpin : selection.pinned = other.pinned) : selection = other := by
  have hselected : selection.selected = other.selected := h.getElem?.symm.trans h'.getElem?
  cases selection
  cases other
  simp only at hselected hpin
  rw [hselected, hpin]

/-- **A selection that goes on is at the place counted modulo the number of frames.** -/
theorem cycle (h : selection.StandsAt state place) (places : Int) :
    (selection.cycle state places).StandsAt state
      ((place + places) % (state.frames.size : Int)).toNat := by
  have hsize : (0 : Int) < state.frames.size := by have := h.lt_size; omega
  have hnonneg := Int.emod_nonneg (place + places) (Int.ne_of_gt hsize)
  have hlt := Int.emod_lt_of_pos (place + places) hsize
  generalize htarget : ((place + places) % (state.frames.size : Int)).toNat = target
  have hbound : target < state.frames.size := by omega
  have hbound' : target < state.frameOrder.length := state.length_frameOrder ▸ hbound
  have hne : state.frameOrder.isEmpty = false := by
    rw [List.isEmpty_eq_false_iff]
    exact List.ne_nil_of_length_pos (Nat.zero_lt_of_lt hbound')
  refine ⟨hbound, ?_⟩
  simp only [Selection.cycle, hne, h.position_eq, state.length_frameOrder, htarget,
    List.getElem?_eq_getElem hbound', Bool.false_eq_true, if_false]
  rfl

/-- **Moves along the order add up.** -/
theorem cycle_cycle (h : selection.StandsAt state place) (a b : Int) :
    (selection.cycle state a).cycle state b = selection.cycle state (a + b) := by
  have hfirst := h.cycle a
  have hsize : (state.frames.size : Int) ≠ 0 := by have := h.lt_size; omega
  have hplace : (((place + a) % (state.frames.size : Int)).toNat + b) % (state.frames.size : Int)
      = (place + (a + b)) % (state.frames.size : Int) := by
    rw [Int.toNat_of_nonneg (Int.emod_nonneg _ hsize), Int.emod_add_emod, Int.add_assoc]
  refine (hplace ▸ hfirst.cycle b).ext (h.cycle (a + b)) ?_
  simp only [pinned_cycle]

/-- A move by a multiple of the number of frames leads back. -/
theorem cycle_of_dvd (h : selection.StandsAt state place) {places : Int}
    (hdvd : (state.frames.size : Int) ∣ places) : selection.cycle state places = selection := by
  have hplace : ((place + places) % (state.frames.size : Int)).toNat = place := by
    have := h.lt_size
    obtain ⟨k, rfl⟩ := hdvd
    rw [Int.add_mul_emod_self_left, Int.emod_eq_of_lt (by omega) (by omega), Int.toNat_natCast]
  exact (hplace ▸ h.cycle places).ext h (pinned_cycle _ _ _)

/-- Going on some times is one move. -/
theorem iterate_next (h : selection.StandsAt state place) (count : Nat) :
    (fun other => other.next state)^[count] selection = selection.cycle state count := by
  induction count with
  | zero => exact (h.cycle_of_dvd (Int.dvd_zero _)).symm
  | succ count ih =>
      rw [Function.iterate_succ_apply', ih, next, h.cycle_cycle]
      rfl

end StandsAt

/-! ### Once around -/

/-- The frames that are selected one after the other by going on some times. -/
def visited (selection : Selection) (state : State) (count : Nat) : List (Option FrameId) :=
  (List.iterate (fun other => other.next state) (selection.next state) count).map selected

/-- **The keys go round all frames of a state**: as many times on as there are frames, the key for
the next one visits every frame once and comes back to where it began, and the two keys undo each
other. -/
structure GoesRound (selection : Selection) (state : State) : Prop where
  visits : (selection.visited state state.frames.size).Perm (state.frameOrder.map some)
  returns : (fun other => other.next state)^[state.frames.size] selection = selection
  previous_next : (selection.next state).previous state = selection
  next_previous : (selection.previous state).next state = selection

/-- Going on as many times as there are frames visits them in their order, turned so that the one
after the selected frame comes first. -/
theorem StandsAt.visited_eq (h : selection.StandsAt state place) :
    selection.visited state state.frames.size
      = (state.frameOrder.rotate (place + 1)).map some := by
  have hlength := state.length_frameOrder
  refine List.ext_getElem (by simp [visited, hlength]) fun k hk hk' => ?_
  have hk : k < state.frames.size := by simpa [visited] using hk
  have hstands := h.cycle (k + 1 : Nat)
  have hplace : ((place + (k + 1 : Nat)) % (state.frames.size : Int)).toNat
      = (k + (place + 1)) % state.frameOrder.length := by
    rw [hlength, ← Int.natCast_add, ← Int.natCast_emod, Int.toNat_natCast, Nat.add_left_comm]
  simp only [visited, List.getElem_map, List.getElem_iterate, ← Function.iterate_succ_apply,
    h.iterate_next]
  rw [← hstands.getElem?, hplace, List.getElem_rotate, List.getElem?_eq_getElem]

/-- From a frame that exists the keys go round. -/
theorem StandsAt.goesRound (h : selection.StandsAt state place) : selection.GoesRound state where
  visits := by
    rw [h.visited_eq]
    exact (List.rotate_perm _ _).map some
  returns := (h.iterate_next _).trans (h.cycle_of_dvd (Int.dvd_refl _))
  previous_next := (h.cycle_cycle 1 (-1)).trans (h.cycle_of_dvd (Int.dvd_zero _))
  next_previous := (h.cycle_cycle (-1) 1).trans (h.cycle_of_dvd (Int.dvd_zero _))

/-- From a frame that does not exist they go to the ends of the order. -/
theorem cycle_of_resolve_eq_none (h : selection.resolve state = .none) {id : FrameId} {places : Int}
    (hid : state.frameOrder[if 0 ≤ places then 0 else state.frameOrder.length - 1]? = some id) :
    selection.cycle state places = selection.select id := by
  have hne : state.frameOrder.isEmpty = false := by
    rw [List.isEmpty_eq_false_iff]
    rintro hnil
    simp [hnil] at hid
  simp only [cycle, hne, position, h, Option.bind_none, hid, Bool.false_eq_true, if_false]

/-- **The keys go round all frames of a state.**  The order of the frames lists each of them once,
by depth and number.  From a selected frame that exists, the keys go round; from one that does not,
they go to the first and to the last frame; and the pin never changes. -/
theorem goes_round {state : State} (h : 1 ≤ state.frames.size) :
    state.OrderedBy state.frameOrder ∧
      ∀ selection : Selection,
        ((selection.resolve state).isSome = true → selection.GoesRound state) ∧
        (selection.resolve state = .none → ∃ first last,
          state.frameOrder.head? = some first ∧ state.frameOrder.getLast? = some last ∧
          selection.next state = selection.select first ∧
          selection.previous state = selection.select last) ∧
        (selection.next state).pinned = selection.pinned ∧
        (selection.previous state).pinned = selection.pinned := by
  refine ⟨state.orderedBy_frameOrder, fun selection => ⟨fun hexists => ?_, fun hmissing => ?_,
    selection.pinned_cycle state 1, selection.pinned_cycle state (-1)⟩⟩
  · obtain ⟨place, hplace⟩ := exists_standsAt_iff.2 hexists
    exact hplace.goesRound
  · rw [← state.length_frameOrder] at h
    have hfirst := List.getElem?_eq_getElem h
    have hlast := List.getElem?_eq_getElem (Nat.sub_one_lt_of_lt h)
    refine ⟨_, _, List.head?_eq_getElem?.trans hfirst, List.getLast?_eq_getElem?.trans hlast,
      ?_, ?_⟩
    · exact cycle_of_resolve_eq_none hmissing hfirst
    · exact cycle_of_resolve_eq_none hmissing hlast

/-- Calls whose numbers do not go with their depths. -/
def scatteredCalls : State :=
  .ofPrefix [.plain 0 .call 5, { Event.plain 1 .call 2 with parent := some 5, depth := 1 },
    .plain 2 .call 3] 3

/-- The keys go round three calls, from the one that lies deepest and is the last in the order. -/
theorem goes_round_scatteredCalls :
    1 ≤ scatteredCalls.frames.size ∧ scatteredCalls.frameOrder = [3, 5, 2] ∧
      visited ⟨some 2, true⟩ scatteredCalls 3 = [some 3, some 5, some 2] ∧
      GoesRound ⟨some 2, true⟩ scatteredCalls :=
  ⟨by decide +kernel, by cbv, by cbv,
    ((goes_round (by decide +kernel)).2 ⟨some 2, true⟩).1 (by decide +kernel)⟩

end Selection

end TracePlayer
