/-
**What a comparison of two states finds.**

Comparing two states walks through the frames of the later one.  What it finds can be said without
the walk: the frames that are new, the frames that have returned since, and one entry for every
variable whose value is another one.

Main definitions:

* `State.value?`, `State.HasFrame`, `State.HasClosed`: the value of a variable, and that a frame has
  begun or returned;
* `ListsNew`: a list of the frames of which something is true that was not true before.

Main results:

* `Change.listsNew_created_between`, `Change.listsNew_closed_between`: the new frames and the new
  returns;
* `Change.mem_locals_between`, `Change.keyed_between`: the entries, one for each variable that
  changed;
* `Change.output_between`: the output.
-/
import Mathlib.Data.List.Nodup
import TracePlayer.Proofs.Program.Growth
import TracePlayer.Proofs.Program.LastEvent
import TracePlayer.Proofs.Program.Merge

set_option autoImplicit false

namespace TracePlayer

/-! ### What is compared -/

namespace State

/-- The value of a variable. -/
def value? (state : State) (subject : FrameId × String) : Option Json :=
  (state.frame? subject.1).bind fun frame => frame.locals.find? subject.2

/-- A frame has begun. -/
def HasFrame (state : State) (id : FrameId) : Prop := ∃ frame, state.frame? id = some frame

/-- A frame has returned. -/
def HasClosed (state : State) (id : FrameId) : Prop :=
  ∃ frame, state.frame? id = some frame ∧ frame.isClosed = true

variable {a b : State} {id : FrameId} {subject : FrameId × String}

theorem hasFrame_iff : a.HasFrame id ↔ (a.frame? id).isSome = true :=
  Option.isSome_iff_exists.symm

theorem hasClosed_iff : a.HasClosed id ↔ (a.frame? id).any Frame.isClosed = true :=
  (Option.any_eq_true _ _).symm

theorem Contained.hasFrame (h : a.Contained b) (hid : a.HasFrame id) : b.HasFrame id := by
  obtain ⟨frame, hframe⟩ := hid
  obtain ⟨later, hlater, -⟩ := h.frame id frame hframe
  exact ⟨later, hlater⟩

theorem Contained.hasClosed (h : a.Contained b) (hid : a.HasClosed id) : b.HasClosed id := by
  obtain ⟨frame, hframe, hclosed⟩ := hid
  obtain ⟨later, hlater, hcontained⟩ := h.frame id frame hframe
  exact ⟨later, hlater, (hcontained.closed hclosed).1⟩

/-- A variable that has a value keeps having one. -/
theorem Contained.exists_value? (h : a.Contained b) {value : Json}
    (hvalue : a.value? subject = some value) : ∃ later, b.value? subject = some later := by
  obtain ⟨frame, hframe, hfind⟩ := Option.bind_eq_some_iff.1 hvalue
  obtain ⟨later, hlater, hcontained⟩ := h.frame subject.1 frame hframe
  have hname : subject.2 ∈ later.locals.names :=
    hcontained.names.subset (Bindings.mem_names_iff.2 ⟨value, hfind⟩)
  obtain ⟨other, hother⟩ := Bindings.mem_names_iff.1 hname
  exact ⟨other, Option.bind_eq_some_iff.2 ⟨later, hlater, hother⟩⟩

end State

/-! ### What a comparison finds -/

/-- The numbers are those, each of them once, that something is true of which was not before. -/
structure ListsNew (ids : List FrameId) (before after : FrameId → Prop) : Prop where
  mem_iff : ∀ id, id ∈ ids ↔ after id ∧ ¬ before id
  nodup : ids.Nodup

namespace ListsNew

variable {xs ys : List FrameId} {p q r : FrameId → Prop}

theorem nil (p : FrameId → Prop) : ListsNew [] p p where
  mem_iff _ := iff_of_false List.not_mem_nil fun h => h.2 h.1
  nodup := List.nodup_nil

/-- Nothing is new twice, as long as what is true stays true. -/
theorem append (hxs : ListsNew xs p q) (hys : ListsNew ys q r) (hpq : ∀ id, p id → q id)
    (hqr : ∀ id, q id → r id) : ListsNew (xs ++ ys) p r where
  mem_iff id := by
    rw [List.mem_append, hxs.mem_iff, hys.mem_iff]
    constructor
    · rintro (⟨hq, hp⟩ | ⟨hr, hq⟩)
      · exact ⟨hqr id hq, hp⟩
      · exact ⟨hr, fun hp => hq (hpq id hp)⟩
    · rintro ⟨hr, hp⟩
      by_cases hq : q id
      · exact .inl ⟨hq, hp⟩
      · exact .inr ⟨hr, hq⟩
  nodup := by
    refine List.nodup_append.2 ⟨hxs.nodup, hys.nodup, fun x hx y hy => ?_⟩
    rintro rfl
    exact ((hys.mem_iff x).1 hy).2 ((hxs.mem_iff x).1 hx).1

theorem perm (hxs : ListsNew xs p q) (hys : ListsNew ys p q) : xs.Perm ys :=
  (List.perm_ext_iff_of_nodup hxs.nodup hys.nodup).2 fun id =>
    (hxs.mem_iff id).trans (hys.mem_iff id).symm

end ListsNew

namespace Change

variable {a b : State} {entry : LocalChange}

/-- The frames of a table that pass a test, gathered one by one, are listed once each. -/
theorem flatMap_ite_id (frames : List Frame) (p : Frame → Bool) :
    (frames.flatMap fun frame => if p frame then [frame.id] else [])
      = (frames.filter p).map Frame.id := by
  induction frames with
  | nil => rfl
  | cons frame rest ih => cases hp : p frame <;> simp [hp, ih]

theorem listsNew_filter {p : Frame → Bool} {before after : FrameId → Prop}
    (h : ∀ id, (∃ frame, b.frame? id = some frame ∧ p frame = true) ↔ after id ∧ ¬ before id) :
    ListsNew ((b.frames.toList.filter p).map Frame.id) before after where
  mem_iff id := by
    rw [← h, List.mem_map]
    refine exists_congr fun frame => ?_
    rw [List.mem_filter, State.frame?, FrameTable.find?_eq_some_iff, and_right_comm]
  nodup := by
    have hids : (b.frames.toList.map Frame.id).Pairwise (· < ·) :=
      List.pairwise_map.2 b.frames.sorted
    exact (hids.imp UInt64.ne_of_lt).sublist ((List.filter_sublist).map Frame.id)

theorem listsNew_created_between (a b : State) :
    ListsNew (between a b).created a.HasFrame b.HasFrame := by
  have hcreated : (between a b).created
      = (b.frames.toList.filter fun frame => (a.frame? frame.id).isNone).map Frame.id := by
    rw [← flatMap_ite_id]
    exact List.flatMap_map ..
  rw [hcreated]
  refine listsNew_filter fun id => ?_
  rw [State.hasFrame_iff (a := a), Bool.not_eq_true, State.HasFrame, ← exists_and_right]
  refine exists_congr fun frame => and_congr_right fun hframe => ?_
  rw [FrameTable.id_of_find? hframe, Option.isNone_iff_eq_none, Option.isSome_eq_false_iff,
    Option.isNone_iff_eq_none]

theorem listsNew_closed_between (a b : State) :
    ListsNew (between a b).closed a.HasClosed b.HasClosed := by
  have hclosed : (between a b).closed
      = (b.frames.toList.filter fun frame =>
          frame.isClosed && !(a.frame? frame.id).any Frame.isClosed).map Frame.id := by
    rw [← flatMap_ite_id]
    exact List.flatMap_map ..
  rw [hclosed]
  refine listsNew_filter fun id => ?_
  rw [State.hasClosed_iff (a := a), Bool.not_eq_true, State.HasClosed, ← exists_and_right]
  refine exists_congr fun frame => ?_
  rw [and_assoc]
  refine and_congr_right fun hframe => ?_
  rw [FrameTable.id_of_find? hframe, Bool.and_eq_true, Bool.not_eq_true']

theorem locals_between (a b : State) :
    (between a b).locals
      = b.frames.toList.flatMap fun frame => localsOf (a.frame? frame.id) frame :=
  List.flatMap_map ..

theorem localsOf_eq (prior : Option Frame) (frame : Frame) :
    localsOf prior frame = frame.locals.toList.filterMap fun pair =>
      if Json.sameOption (prior.bind fun earlier => earlier.locals.find? pair.1) (some pair.2)
      then .none
      else some ⟨frame.id, pair.1, prior.bind fun earlier => earlier.locals.find? pair.1, pair.2⟩ :=
  rfl

theorem mem_localsOf {prior : Option Frame} {frame : Frame} :
    entry ∈ localsOf prior frame ↔
      entry.frame = frame.id ∧ frame.locals.find? entry.name = some entry.new ∧
        entry.old = (prior.bind fun earlier => earlier.locals.find? entry.name) ∧
          Json.sameOption entry.old (some entry.new) = false := by
  simp only [localsOf_eq, List.mem_filterMap, Option.ite_none_left_eq_some, Bool.not_eq_true]
  constructor
  · rintro ⟨pair, hpair, hchanged, hentry⟩
    obtain rfl := Option.some_inj.1 hentry
    exact ⟨rfl, Bindings.find?_eq_some_iff.2 hpair, rfl, hchanged⟩
  · rintro ⟨hframe, hnew, hold, hchanged⟩
    refine ⟨(entry.name, entry.new), Bindings.find?_eq_some_iff.1 hnew, hold ▸ hchanged, ?_⟩
    rw [← hframe, ← hold]

theorem nodup_subjects_localsOf (prior : Option Frame) (frame : Frame) :
    (subjects (localsOf prior frame)).Nodup := by
  have hnames : frame.locals.toList.Pairwise fun p q => p.1 ≠ q.1 :=
    List.pairwise_map.1 frame.locals.nodup
  rw [subjects, List.Nodup, List.pairwise_map, localsOf_eq, List.pairwise_filterMap]
  refine hnames.imp fun {p q} hne x hx y hy heq => hne ?_
  obtain ⟨-, hx⟩ := Option.ite_none_left_eq_some.1 hx
  obtain ⟨-, hy⟩ := Option.ite_none_left_eq_some.1 hy
  obtain rfl := Option.some_inj.1 hx
  obtain rfl := Option.some_inj.1 hy
  exact (LocalChange.subject_eq_iff.1 heq).2

/-- **What the entries of a comparison are**: one for each variable whose value differs from the one
it had before. -/
theorem mem_locals_between :
    entry ∈ (between a b).locals ↔
      b.value? entry.subject = some entry.new ∧ entry.old = a.value? entry.subject ∧
        Json.sameOption entry.old (some entry.new) = false := by
  rw [locals_between, List.mem_flatMap]
  constructor
  · rintro ⟨frame, hmem, hentry⟩
    obtain ⟨hframe, hnew, hold, hchanged⟩ := mem_localsOf.1 hentry
    have hfind : b.frame? entry.frame = some frame := hframe ▸ FrameTable.find?_of_mem hmem
    rw [← hframe] at hold
    exact ⟨Option.bind_eq_some_iff.2 ⟨frame, hfind, hnew⟩, hold, hchanged⟩
  · rintro ⟨hnew, hold, hchanged⟩
    obtain ⟨frame, hfind, hvalue⟩ := Option.bind_eq_some_iff.1 hnew
    obtain ⟨hmem, hid⟩ := FrameTable.find?_eq_some_iff.1 hfind
    refine ⟨frame, hmem, mem_localsOf.2 ⟨hid.symm, hvalue, ?_, hchanged⟩⟩
    rw [hid]
    exact hold

/-- A comparison holds one entry of a variable at most. -/
theorem keyed_between (a b : State) : (between a b).Keyed := by
  rw [Keyed, locals_between, subjects, List.map_flatMap, List.nodup_flatMap]
  refine ⟨fun frame _ => nodup_subjects_localsOf _ frame, b.frames.sorted.imp fun {x y} hlt => ?_⟩
  -- The variables of two frames differ in their frames.
  rintro subject hx hy
  obtain ⟨first, hfirst, rfl⟩ := List.mem_map.1 hx
  obtain ⟨second, hsecond, heq⟩ := List.mem_map.1 hy
  have hframes : second.frame = first.frame := (LocalChange.subject_eq_iff.1 heq).1
  rw [(mem_localsOf.1 hfirst).1, (mem_localsOf.1 hsecond).1] at hframes
  exact UInt64.ne_of_lt hlt hframes.symm

theorem output_between (h : a.Contained b) : b.stdout = a.stdout ++ (between a b).output := by
  obtain ⟨printed, hprinted⟩ := h.stdout
  simp only [between, hprinted, stripFront?_append, Option.getD_some]

end Change

end TracePlayer
