/-
**The state read off the log.**

The fold over a log meets the events of all frames in one sequence.  What it leaves in the record of
a frame, however, can be read off the events of that frame alone: the first of them opens it, all of
them bind its variables, and the first return among them closes it.

Main definitions:

* `Frame.eventsOf`: the events of a frame, each with its place in the log;
* `Frame.boundBy`, `Frame.closedBy`: the pairs these events bind, and how they close the frame;
* `Frame.Reads`, `State.Reads`: a frame, and a state, is as its events say;
* `Frame.ofEvents?`: the record of a frame in closed form.

Main results:

* `Frame.ofEvents?_concat`: one more event of a frame, in the closed form;
* `State.frame?_applyAll`: the frames after a fold are in closed form;
* `State.Reads.unique`: no two states read the same;
* `State.exists_frame_atStep`: the frame of an event, at its step and after it;
* `State.reads_iff`: **the state that reads as the first events of a log say is the fold over
  them**, and no other one does.
-/
import TracePlayer.Program.State
import TracePlayer.Proofs.Bindings
import TracePlayer.Proofs.Program.FrameTable

set_option autoImplicit false

namespace TracePlayer

/-! ### The events of a frame -/

/-- The pairs that an event brings as arguments. -/
def Event.arguments (event : Event) : List (String × Json) := (event.args.getD .empty).toList

/-- The pairs that an event assigns. -/
def Event.assigned (event : Event) : List (String × Json) :=
  (event.assignments.getD .empty).toList

namespace Frame

/-- The events of a frame, each with its place among all events. -/
def eventsOf (id : FrameId) (events : List Event) : List (Event × Nat) :=
  events.zipIdx.filter fun entry => entry.1.frame == id

/-- The pairs that the events of a frame bind: the arguments of the first one, then the assignments
of each. -/
def boundBy (own : List (Event × Nat)) : List (String × Json) :=
  own.head?.toList.flatMap (fun entry => entry.1.arguments)
    ++ own.flatMap fun entry => entry.1.assigned

/-- How the events of a frame close it: by the first return among them, if there is one. -/
def closedBy (own : List (Event × Nat)) : Option Closing :=
  (own.find? fun entry => decide (entry.1.kind = .ret)).map fun entry =>
    ⟨entry.2, entry.1.returnValue⟩

/-- **A frame is as its own events say.** -/
structure Reads (frame : Frame) (own : List (Event × Nat)) : Prop where
  /-- Its number, function, depth, parent and beginning are those of the first event. -/
  first : ∃ event place, own.head? = some (event, place) ∧ frame.id = event.frame ∧
    frame.function = event.function ∧ frame.depth = event.depth ∧ frame.parent = event.parent ∧
    frame.createdAt = place
  /-- Each variable stands where its name was bound for the first time. -/
  names : frame.locals.names = ((boundBy own).map Prod.fst).eraseDups
  /-- Each variable has the value it was bound to last. -/
  value : ∀ name, frame.locals.find? name = (boundBy own).reverse.lookup name
  /-- It is closed by its first return. -/
  closing : frame.closing = closedBy own

end Frame

/-- **A state is as some events say.** -/
structure State.Reads (state : State) (events : List Event) : Prop where
  /-- The output is what the events print, in order. -/
  stdout : state.stdout = String.join (events.map Event.fragment)
  /-- The frames are those that the events mention. -/
  mentioned : ∀ id, (state.frame? id).isSome = true ↔ ∃ event ∈ events, event.frame = id
  /-- Each frame is as its own events say. -/
  frame : ∀ id frame, state.frame? id = some frame → frame.Reads (Frame.eventsOf id events)
  /-- The last event is the last one. -/
  lastEvent : state.lastEvent = events.getLast?
  /-- All events are counted. -/
  applied : state.applied = events.length

/-! ### One frame in closed form -/

namespace Frame

/-- The record of a frame whose events are given, nothing if there are none. -/
def ofEvents? (own : List (Event × Nat)) : Option Frame :=
  own.head?.map fun entry =>
    { ofEvent entry.2 entry.1 with locals := .ofPairs (boundBy own), closing := closedBy own }

theorem eventsOf_concat (id : FrameId) (events : List Event) (event : Event) :
    eventsOf id (events ++ [event])
      = eventsOf id events ++ if event.frame = id then [(event, events.length)] else [] := by
  simp [eventsOf, List.zipIdx_append, List.filter_cons]

theorem mem_eventsOf {id : FrameId} {events : List Event} {entry : Event × Nat} :
    entry ∈ eventsOf id events ↔ events[entry.2]? = some entry.1 ∧ entry.1.frame = id := by
  rw [eventsOf, List.mem_filter, List.mem_zipIdx_iff_getElem?, beq_iff_eq]

/-- A frame has a first event if and only if some event mentions it. -/
theorem isSome_head?_eventsOf {id : FrameId} {events : List Event} :
    (eventsOf id events).head?.isSome = true ↔ ∃ event ∈ events, event.frame = id := by
  constructor
  · intro h
    obtain ⟨entry, hentry⟩ := Option.isSome_iff_exists.1 h
    obtain ⟨hplace, hframe⟩ := mem_eventsOf.1 (List.mem_of_head? hentry)
    exact ⟨entry.1, List.mem_of_getElem? hplace, hframe⟩
  · rintro ⟨event, hevent, hframe⟩
    obtain ⟨place, hplace⟩ := List.getElem?_of_mem hevent
    have hmem : (event, place) ∈ eventsOf id events := mem_eventsOf.2 ⟨hplace, hframe⟩
    exact List.isSome_head?.2 (List.ne_nil_of_mem hmem)

/-- What one of its events does to a frame: it binds its pairs, and closes the frame if it is a
return and the frame is open. -/
theorem record_eq (frame : Frame) (step : Nat) (event : Event) :
    frame.record step event =
      { frame with
        locals := frame.locals.overlay event.assigned
        closing := frame.closing.or (closedBy [(event, step)]) } := by
  unfold record closedBy
  cases hkind : event.kind <;> cases hclosing : frame.closing <;>
    simp [hkind, hclosing, Kind.closesFrame, close, assign, Event.assigned]

theorem closedBy_concat (own : List (Event × Nat)) (entry : Event × Nat) :
    closedBy (own ++ [entry]) = (closedBy own).or (closedBy [entry]) := by
  rw [closedBy, List.find?_append, Option.map_or]
  rfl

theorem boundBy_concat {own : List (Event × Nat)} (h : own ≠ []) (entry : Event × Nat) :
    boundBy (own ++ [entry]) = boundBy own ++ entry.1.assigned := by
  obtain ⟨first, rest, rfl⟩ := List.exists_cons_of_ne_nil h
  simp [boundBy, List.append_assoc]

/-- One more event of a frame does to the closed form what it does to the record. -/
theorem ofEvents?_concat (own : List (Event × Nat)) (event : Event) (place : Nat) :
    ofEvents? (own ++ [(event, place)])
      = some (((ofEvents? own).getD (ofEvent place event)).record place event) := by
  cases own with
  | nil =>
      -- The first event of a frame binds its arguments too, before the pairs it assigns.
      have hlocals : Bindings.ofPairs (event.arguments ++ event.assigned)
          = (event.args.getD .empty).overlay event.assigned :=
        (Bindings.overlay_eq_ofPairs _ _).symm
      simp [ofEvents?, record_eq, boundBy, hlocals, ofEvent]
  | cons first rest =>
      have hne : first :: rest ≠ [] := List.cons_ne_nil first rest
      have hlocals : Bindings.ofPairs (boundBy (first :: rest) ++ event.assigned)
          = (Bindings.ofPairs (boundBy (first :: rest))).overlay event.assigned :=
        Bindings.overlay_append _ _ _
      rw [ofEvents?, boundBy_concat hne, closedBy_concat, hlocals]
      simp [ofEvents?, record_eq]

/-- The closed form is as the events say. -/
theorem reads_of_ofEvents? {own : List (Event × Nat)} {frame : Frame}
    (h : ofEvents? own = some frame) : frame.Reads own := by
  obtain ⟨⟨event, place⟩, hhead, rfl⟩ := Option.map_eq_some_iff.1 h
  exact
    { first := ⟨event, place, hhead, rfl, rfl, rfl, rfl, rfl⟩
      names := Bindings.names_ofPairs _
      value := Bindings.find?_ofPairs _
      closing := rfl }

/-- No two frames read the same. -/
theorem Reads.unique {own : List (Event × Nat)} {a b : Frame} (ha : a.Reads own)
    (hb : b.Reads own) : a = b := by
  obtain ⟨event, place, hhead, hid, hfunction, hdepth, hparent, hcreated⟩ := ha.first
  obtain ⟨event', place', hhead', hid', hfunction', hdepth', hparent', hcreated'⟩ := hb.first
  obtain ⟨rfl, rfl⟩ := Prod.mk.inj (Option.some_inj.1 (hhead.symm.trans hhead'))
  have hlocals : a.locals = b.locals :=
    Bindings.ext_find? (ha.names.trans hb.names.symm) fun name =>
      (ha.value name).trans (hb.value name).symm
  exact Frame.ext (hid.trans hid'.symm) (hfunction.trans hfunction'.symm)
    (hdepth.trans hdepth'.symm) (hparent.trans hparent'.symm) hlocals
    (ha.closing.trans hb.closing.symm) (hcreated.trans hcreated'.symm)

end Frame

/-! ### The whole state -/

namespace State

theorem stdout_applyAll (state : State) (events : List Event) :
    (state.applyAll events).stdout = state.stdout ++ String.join (events.map Event.fragment) := by
  induction events generalizing state with
  | nil => simp
  | cons event rest ih =>
      rw [applyAll_cons, ih, List.map_cons, String.join_cons, ← String.append_assoc]
      rfl

theorem lastEvent_applyAll (state : State) (events : List Event) :
    (state.applyAll events).lastEvent = events.getLast?.or state.lastEvent := by
  induction events generalizing state with
  | nil => rfl
  | cons event rest ih =>
      rw [applyAll_cons, ih, List.getLast?_cons]
      cases rest.getLast? <;> rfl

/-- **The frames after a fold are in closed form**: each is what its own events make of it. -/
theorem frame?_applyAll (events : List Event) (id : FrameId) :
    (initial.applyAll events).frame? id = Frame.ofEvents? (Frame.eventsOf id events) := by
  -- The fold ends with the last event, so the induction takes the events from the end.
  rw [← events.reverse_reverse]
  induction events.reverse generalizing id with
  | nil => rfl
  | cons event earlier ih =>
      have happlied : (initial.applyAll earlier.reverse).applied = earlier.reverse.length := by
        rw [applied_applyAll]
        exact Nat.zero_add _
      rw [List.reverse_cons, applyAll_append, applyAll_cons, applyAll_nil, frame?_apply,
        Frame.eventsOf_concat]
      by_cases h : id = event.frame
      · subst h
        rw [if_pos rfl, if_pos rfl, Frame.ofEvents?_concat, ← ih, happlied]
        rw [frameOf, happlied]
        rfl
      · rw [if_neg h, if_neg fun e => h e.symm, List.append_nil, ih]

theorem reads_applyAll (events : List Event) : (initial.applyAll events).Reads events where
  stdout := by
    rw [stdout_applyAll]
    exact String.empty_append
  mentioned id := by
    rw [frame?_applyAll, Frame.ofEvents?, Option.isSome_map, Frame.isSome_head?_eventsOf]
  frame id frame h := by
    rw [frame?_applyAll] at h
    exact Frame.reads_of_ofEvents? h
  lastEvent := by
    rw [lastEvent_applyAll]
    exact Option.or_none
  applied := by
    rw [applied_applyAll]
    exact Nat.zero_add _

/-- No two states read the same. -/
theorem Reads.unique {events : List Event} {a b : State} (ha : a.Reads events)
    (hb : b.Reads events) : a = b := by
  have hframes : a.frames = b.frames := by
    refine FrameTable.ext_find? fun id => ?_
    have hmentioned := (ha.mentioned id).trans (hb.mentioned id).symm
    change a.frame? id = b.frame? id
    cases hafind : a.frame? id with
    | none =>
        cases hbfind : b.frame? id with
        | none => rfl
        | some frame => simp [hafind, hbfind] at hmentioned
    | some frame =>
        cases hbfind : b.frame? id with
        | none => simp [hafind, hbfind] at hmentioned
        | some other =>
            exact congrArg some ((ha.frame id frame hafind).unique (hb.frame id other hbfind))
  exact State.ext (ha.stdout.trans hb.stdout.symm) hframes (ha.lastEvent.trans hb.lastEvent.symm)
    (ha.applied.trans hb.applied.symm)

/-- The state of a step is as the events up to it say. -/
theorem reads_atStep (events : List Event) (step : Int) :
    (atStep events step).Reads (events.take (eventsThrough events.length step)) :=
  reads_applyAll _

/-- Which events a step includes: those of the log that are not later. -/
theorem lt_eventsThrough_iff {length place : Nat} {step : Int} :
    place < eventsThrough length step ↔ place < length ∧ (place : Int) ≤ step := by
  unfold eventsThrough
  split
  · omega
  · rw [Nat.lt_min]
    omega

theorem eventsThrough_of_lt {length place : Nat} (h : place < length) :
    eventsThrough length (place : Int) = place + 1 := by
  rw [eventsThrough, if_neg (by omega), Int.toNat_natCast]
  exact Nat.min_eq_left h

/-- **At the step of an event and after it, its frame is there**, as its events so far say. -/
theorem exists_frame_atStep {events : List Event} {place : Nat} {event : Event} {step : Int}
    (h : events[place]? = some event) (hle : (place : Int) ≤ step) :
    ∃ frame, (atStep events step).frame? event.frame = some frame ∧
      frame.Reads (Frame.eventsOf event.frame
        (events.take (eventsThrough events.length step))) := by
  have reads := reads_atStep events step
  have hlt := lt_eventsThrough_iff.2 ⟨(List.getElem?_eq_some_iff.1 h).1, hle⟩
  have hmem : event ∈ events.take (eventsThrough events.length step) :=
    List.mem_of_getElem? (List.getElem?_take_of_lt hlt ▸ h)
  obtain ⟨frame, hframe⟩ := Option.isSome_iff_exists.1
    ((reads.mentioned event.frame).2 ⟨event, hmem, rfl⟩)
  exact ⟨frame, hframe, reads.frame _ frame hframe⟩

/-- **The state that reads as the first events of a log say is the fold over them.**  The fold over
a log of interleaved frames has its output, its frames, their records, its last event and its count
as the events say, and no other state has. -/
theorem reads_iff (events : List Event) (count : Nat) (state : State) :
    state.Reads (events.take count) ↔ state = ofPrefix events count := by
  constructor
  · exact fun h => h.unique (reads_applyAll _)
  · rintro rfl
    exact reads_applyAll _

end State

end TracePlayer
