/-
**What is told from the written form of a state.**

A state is written as an object, its frames under their numbers.  Nothing of it is lost, with one
exception: the value that a frame returned is written as `null` if it was `null`, and also if there
was none.  So a frame that returned `null` looks like a frame that was closed without a value.

Main definitions:

* `State.Agree`: two states agree, the values that frames returned being compared in a given way;
* `State.Same`: **equal states**;
* `Json.SameOrNull`: values that are the same if a missing one counts as `null`.

Main results:

* `Frame.same_encode_iff`, `FrameTable.same_entries_iff`, `State.same_encode_iff`: frames, tables
  and states are written as equal objects if they agree in this way;
* `State.same_encode_atStep_iff`: **what is told from the written form** of the states of two logs;
* `State.encode_returnedNull_eq`: two states that are different and written alike.
-/
import TracePlayer.Proofs.Program.Reading
import TracePlayer.Proofs.Trace.Equality

set_option autoImplicit false

namespace TracePlayer

/-! ### Equal states -/

/-- Two frames agree, the values they returned being compared in a given way. -/
structure Frame.Agree (alike : Option Json → Option Json → Prop) (first second : Frame) : Prop where
  id : first.id = second.id
  function : first.function = second.function
  depth : first.depth = second.depth
  parent : first.parent = second.parent
  locals : Json.sameBindings first.locals second.locals = true
  returnValue : alike first.returnValue second.returnValue
  createdAt : first.createdAt = second.createdAt
  closedAt : first.closedAt = second.closedAt

/-- Two states agree, the values that frames returned being compared in a given way. -/
structure State.Agree (alike : Option Json → Option Json → Prop) (first second : State) : Prop where
  stdout : first.stdout = second.stdout
  frames : ∀ id, Option.Rel (Frame.Agree alike) (first.frame? id) (second.frame? id)
  lastEvent : Option.Rel (fun event other => event.same other = true) first.lastEvent
    second.lastEvent
  applied : first.applied = second.applied

/-- **Equal states**, JSON values being compared as values. -/
def State.Same (first second : State) : Prop :=
  first.Agree (fun value other => Json.sameOption value other = true) second

/-- Values are the same if a missing one counts as `null`. -/
def Json.SameOrNull (value other : Option Json) : Prop :=
  Json.same (value.getD .null) (other.getD .null) = true

/-! ### Frames -/

namespace Frame

variable {first second : Frame}

theorem same_returnValue_iff :
    Json.same (.ofOption (fun value => value) first.returnValue)
        (.ofOption (fun value => value) second.returnValue) = true ↔
      Json.SameOrNull first.returnValue second.returnValue := by
  unfold Json.SameOrNull
  cases first.returnValue <;> cases second.returnValue <;> rfl

theorem same_closedAt_iff :
    Json.same (.ofOption Json.ofNat first.closedAt) (.ofOption Json.ofNat second.closedAt) = true ↔
      first.closedAt = second.closedAt := by
  have hnull : ∀ step, Json.ofNat step ≠ .null := nofun
  rw [Json.same_ofOption hnull, Json.sameOption_map_iff Json.same_ofNat_iff]

theorem isClosed_eq : first.isClosed = first.closedAt.isSome := by
  rw [closedAt, Option.isSome_map, isClosed]

/-- **Frames are written as equal objects** if they agree, whether a frame returned `null` or
nothing. -/
theorem same_encode_iff :
    Json.same first.encode second.encode = true ↔ Frame.Agree Json.SameOrNull first second := by
  simp (disch := simp) only [encode, Json.same_obj_cons_iff, Event.same_wordJson_iff,
    Json.same_str_iff, Json.same_ofNat_iff, Event.same_ofOption_wordJson_iff, UInt32.toNat_inj,
    Event.same_bindingsJson, Json.same_bool_iff, same_returnValue_iff, same_closedAt_iff,
    isClosed_eq, Json.same_refl]
  constructor
  · rintro ⟨hid, hfunction, hdepth, hparent, hlocals, -, hvalue, hcreated, hclosed, -⟩
    exact ⟨hid, hfunction, hdepth, hparent, hlocals, hvalue, hcreated, hclosed⟩
  · rintro ⟨hid, hfunction, hdepth, hparent, hlocals, hvalue, hcreated, hclosed⟩
    exact ⟨hid, hfunction, hdepth, hparent, hlocals, congrArg Option.isSome hclosed, hvalue,
      hcreated, hclosed, trivial⟩

end Frame

/-! ### Tables of frames -/

namespace FrameTable

/-- The frames of a table under their numbers. -/
def entries (table : FrameTable) : List (String × Json) :=
  table.toList.map fun frame => (toString frame.id.toNat, frame.encode)

/-- Numbers are told apart by how they are written. -/
theorem toString_toNat_inj {id other : FrameId} :
    toString id.toNat = toString other.toNat ↔ id = other := by
  refine ⟨fun h => UInt64.toNat_inj.1 ?_, congrArg fun id : FrameId => toString id.toNat⟩
  have hdigits : Nat.toDigits 10 id.toNat = Nat.toDigits 10 other.toNat :=
    String.ofList_injective h
  simpa using congrArg (Nat.ofDigitChars 10 · 0) hdigits

/-- Under the text of a number stands the frame of this number. -/
theorem lookup_entries (table : FrameTable) (id : FrameId) :
    table.entries.lookup (toString id.toNat) = (table.find? id).map Frame.encode := by
  unfold entries find?
  induction table.toList with
  | nil => rfl
  | cons head rest ih =>
      rw [List.map_cons, Bindings.lookup_cons_eq, List.find?_cons, ih]
      by_cases h : id = head.id
      · simp [h]
      · have hbeq : (head.id == id) = false := beq_eq_false_iff_ne.2 (Ne.symm h)
        rw [if_neg (mt toString_toNat_inj.1 h), hbeq]

/-- Nothing stands under any other text. -/
theorem lookup_entries_eq_none {table : FrameTable} {name : String}
    (h : ∀ id : FrameId, name ≠ toString id.toNat) : table.entries.lookup name = none := by
  refine List.lookup_eq_none_iff.2 fun entry hentry => ?_
  obtain ⟨frame, -, rfl⟩ := List.mem_map.1 hentry
  simpa using h frame.id

/-- Tables are written as equal objects if the frames of each number are. -/
theorem same_entries_iff (first second : FrameTable) :
    Json.same (.obj first.entries) (.obj second.entries) = true ↔
      ∀ id, Option.Rel (Frame.Agree Json.SameOrNull) (first.find? id) (second.find? id) := by
  have hname (id : FrameId) : Json.sameOption (first.entries.lookup (toString id.toNat))
        (second.entries.lookup (toString id.toNat)) = true ↔
      Option.Rel (Frame.Agree Json.SameOrNull) (first.find? id) (second.find? id) := by
    rw [lookup_entries, lookup_entries]
    exact Json.sameOption_map_iff_rel fun _ _ _ _ => Frame.same_encode_iff
  rw [Json.same_obj_iff_lookup]
  refine ⟨fun h id => (hname id).1 (h _), fun h name => ?_⟩
  by_cases hnumber : ∃ id : FrameId, name = toString id.toNat
  · obtain ⟨id, rfl⟩ := hnumber
    exact (hname id).2 (h id)
  · have hnone := not_exists.1 hnumber
    rw [lookup_entries_eq_none hnone, lookup_entries_eq_none hnone]
    rfl

end FrameTable

/-! ### States -/

namespace State

variable {first second : State}

/-- **States are written as equal objects** if they agree, whether frames returned `null` or
nothing. -/
theorem same_encode_iff (hfirst : ∀ event ∈ first.lastEvent, event.Readable)
    (hsecond : ∀ event ∈ second.lastEvent, event.Readable) :
    Json.same first.encode second.encode = true ↔ State.Agree Json.SameOrNull first second := by
  have hlast : Json.same (.ofOption Event.encode first.lastEvent)
        (.ofOption Event.encode second.lastEvent) = true ↔
      Option.Rel (fun event other => event.same other = true) first.lastEvent second.lastEvent := by
    have hnull (event : Event) : event.encode ≠ .null := by simp [Event.encode]
    rw [Json.same_ofOption hnull]
    exact Json.sameOption_map_iff_rel fun x hx y hy =>
      Event.same_encode_iff (hfirst x hx) (hsecond y hy)
  have hframes := FrameTable.same_entries_iff first.frames second.frames
  unfold FrameTable.entries at hframes
  simp (disch := simp) only [encode, Json.same_obj_cons_iff, Json.same_str_iff, hframes, hlast,
    Json.same_ofNat_iff, Json.same_refl]
  constructor
  · rintro ⟨hstdout, hframes, hlast, happlied, -⟩
    exact ⟨hstdout, hframes, hlast, happlied⟩
  · rintro ⟨hstdout, hframes, hlast, happlied⟩
    exact ⟨hstdout, hframes, hlast, happlied, trivial⟩

/-- The last event of a state is one of the events that led to it. -/
theorem mem_of_mem_lastEvent {events : List Event} {step : Int} {event : Event}
    (h : event ∈ (atStep events step).lastEvent) : event ∈ events := by
  rw [atStep, ofPrefix, lastEvent_applyAll, initial, Option.or_none] at h
  exact List.mem_of_mem_take (List.mem_of_getLast? h)

/-- **What is told from the written form of a state**: of two logs that were read, the states at any
two steps are written as equal objects if and only if they agree, a frame that returned `null` and a
frame that was closed without a value being taken for the same. -/
theorem same_encode_atStep_iff {value other : Json} {payload next : Payload}
    (hpayload : Payload.decode value = .ok payload) (hnext : Payload.decode other = .ok next)
    (a b : Int) :
    Json.same (atStep payload.events a).encode (atStep next.events b).encode = true ↔
      (atStep payload.events a).Agree Json.SameOrNull (atStep next.events b) :=
  same_encode_iff
    (fun event h => Payload.readable_of_decode hpayload event (mem_of_mem_lastEvent h))
    (fun event h => Payload.readable_of_decode hnext event (mem_of_mem_lastEvent h))

/-- A document of a call, its return, and a line of another frame. -/
def calledAndReturned (value : Option Json) : Payload :=
  ⟨Payload.defaultFilename, "",
    [.plain 0 .call 1, { Event.plain 1 .ret 1 with returnValue := value }, .plain 2 .line 2]⟩

/-- This document is read from what is written for it. -/
theorem decode_calledAndReturned (value : Option Json) :
    Payload.decode (calledAndReturned value).encode = .ok (calledAndReturned value) := by
  have hreadable : ∀ event ∈ (calledAndReturned value).events, event.Readable := by
    simp only [calledAndReturned, List.forall_mem_cons]
    refine ⟨?_, ?_, ?_, by simp⟩
    all_goals exact ⟨nofun, fun _ hname => absurd hname List.not_mem_nil⟩
  exact Payload.decode_eq_ok_iff.2 ⟨Payload.decodeParts_encode hreadable, rfl⟩

/-- The states after a return of `null`, and after one without a value, agree in everything else. -/
theorem same_encode_atStep_returnedNull :
    Payload.decode (calledAndReturned (some .null)).encode = .ok (calledAndReturned (some .null)) ∧
      Payload.decode (calledAndReturned none).encode = .ok (calledAndReturned none) ∧
      Json.same (atStep (calledAndReturned (some .null)).events 2).encode
        (atStep (calledAndReturned none).events 7).encode = true ∧
      (atStep (calledAndReturned (some .null)).events 2).Agree Json.SameOrNull
        (atStep (calledAndReturned none).events 7) := by
  have hsame : Json.same (atStep (calledAndReturned (some .null)).events 2).encode
      (atStep (calledAndReturned none).events 7).encode = true := Json.same_refl _
  exact ⟨decode_calledAndReturned _, decode_calledAndReturned _, hsame,
    (same_encode_atStep_iff (decode_calledAndReturned _) (decode_calledAndReturned _) 2 7).1 hsame⟩

/-- **Two states that are different and written alike**: in one of them a frame returned `null`, in
the other one it was closed without a value. -/
theorem encode_returnedNull_eq :
    Payload.decode (calledAndReturned (some .null)).encode = .ok (calledAndReturned (some .null)) ∧
      Payload.decode (calledAndReturned none).encode = .ok (calledAndReturned none) ∧
      (atStep (calledAndReturned (some .null)).events 2).encode =
        (atStep (calledAndReturned none).events 2).encode ∧
      ¬ (atStep (calledAndReturned (some .null)).events 2).Same
        (atStep (calledAndReturned none).events 2) := by
  refine ⟨decode_calledAndReturned _, decode_calledAndReturned _, rfl, fun hsame => ?_⟩
  have hnull : ((atStep (calledAndReturned (some .null)).events 2).frame? 1).map
      Frame.returnValue = some (some .null) := rfl
  have hnothing : ((atStep (calledAndReturned none).events 2).frame? 1).map
      Frame.returnValue = some none := rfl
  obtain ⟨frame, hframe, hvalue⟩ := Option.map_eq_some_iff.1 hnull
  obtain ⟨other, hother, hmissing⟩ := Option.map_eq_some_iff.1 hnothing
  have hagree := hsame.frames 1
  rw [hframe, hother] at hagree
  cases hagree with
  | some hagree =>
      have hreturn := hagree.returnValue
      rw [hvalue, hmissing] at hreturn
      cases hreturn

end State

end TracePlayer
