/-
**Which bindings reach the locals of a frame.**

An event binds names in two ways, as the arguments of a call and as assignments.  Assignments reach
the frame whenever they come, and of several to one name the last one counts.  Arguments are taken
from the event that begins the frame, whatever kind it is, and from no other one: those that come
with a later event are lost, unless their names are bound otherwise.

Main definitions:

* `Event.argument?`, `Event.assignment?`, `Event.Binds`: the bindings that an event brings;
* `Frame.lastAssigned`: what the events of a frame assigned to a name last;
* `Frame.InTime`: a name is assigned, or it came with the event that begins the frame;
* `State.KeepsBindings`: **no binding of a log is lost**.

Main results:

* `Frame.Reads.find?_locals`: the value of a name among the locals;
* `State.exists_frame_atStep_self`: the names that are bound at the step of an event;
* `State.keepsBindings_iff`: **which logs lose no binding**, and what becomes of the others.
-/
import TracePlayer.Proofs.Program.Growth
import TracePlayer.Proofs.Program.Reading

set_option autoImplicit false

namespace TracePlayer

/-! ### The bindings of events -/

namespace Event

/-- The value of an argument that an event brings. -/
def argument? (event : Event) (name : String) : Option Json := (event.args.getD .empty).find? name

/-- The value that an event assigns to a name. -/
def assignment? (event : Event) (name : String) : Option Json :=
  (event.assignments.getD .empty).find? name

/-- An event binds a name, as an argument or by an assignment. -/
def Binds (event : Event) (name : String) : Prop :=
  (event.argument? name).isSome = true ∨ (event.assignment? name).isSome = true

end Event

namespace Frame

/-- What the events of a frame assigned to a name last. -/
def lastAssigned (own : List (Event × Nat)) (name : String) : Option Json :=
  own.reverse.findSome? fun entry => entry.1.assignment? name

/-- A name came as an argument with the event that begins the frame, or was assigned. -/
def InTime (own : List (Event × Nat)) (name : String) : Prop :=
  (∃ first, own.head? = some first ∧ (first.1.argument? name).isSome = true) ∨
    ∃ entry ∈ own, (entry.1.assignment? name).isSome = true

end Frame

/-- **No binding of a log is lost**: each name that an event binds is among the locals of its frame,
at the step of the event and at every later one. -/
def State.KeepsBindings (events : List Event) : Prop :=
  ∀ (step : Int) (place : Nat) (event : Event), events[place]? = some event → (place : Int) ≤ step →
    ∀ name, event.Binds name → ∃ frame, (atStep events step).frame? event.frame = some frame ∧
      (frame.locals.find? name).isSome = true

/-! ### One frame -/

theorem Bindings.lookup_reverse_toList {α : Type} (bindings : Bindings α) (name : String) :
    bindings.toList.reverse.lookup name = bindings.find? name := by
  rw [← find?_ofPairs, ofPairs_toList]

namespace Frame

variable {frame : Frame} {own : List (Event × Nat)}

/-- The last pair of a name among all that the events assign is the one assigned last. -/
theorem lookup_reverse_assigned (own : List (Event × Nat)) (name : String) :
    (own.flatMap fun entry => entry.1.assigned).reverse.lookup name = lastAssigned own name := by
  induction own with
  | nil => rfl
  | cons entry rest ih =>
      rw [List.flatMap_cons, List.reverse_append, List.lookup_append, ih, Event.assigned,
        Bindings.lookup_reverse_toList, lastAssigned, lastAssigned, List.reverse_cons,
        List.findSome?_append]
      simp [Event.assignment?]

theorem isSome_lastAssigned_iff {name : String} :
    (lastAssigned own name).isSome = true ↔
      ∃ entry ∈ own, (entry.1.assignment? name).isSome = true := by
  simp only [lastAssigned, List.findSome?_isSome_iff, List.mem_reverse]

/-- **The value of a name among the locals** is the one assigned last, or else that of the argument
of the event that begins the frame. -/
theorem Reads.find?_locals (reads : frame.Reads own) :
    ∃ first, own.head? = some (first, frame.createdAt) ∧
      ∀ name, frame.locals.find? name = (lastAssigned own name).or (first.argument? name) := by
  obtain ⟨first, place, hhead, -, -, -, -, hcreated⟩ := reads.first
  refine ⟨first, hcreated ▸ hhead, fun name => ?_⟩
  rw [reads.value, boundBy, List.reverse_append, List.lookup_append, lookup_reverse_assigned, hhead]
  simp only [Option.toList_some, List.flatMap_singleton, Event.arguments,
    Bindings.lookup_reverse_toList, Event.argument?]

/-- So a name is among the locals if and only if it came in time. -/
theorem Reads.isSome_find?_iff (reads : frame.Reads own) (name : String) :
    (frame.locals.find? name).isSome = true ↔ InTime own name := by
  obtain ⟨first, hhead, hvalue⟩ := reads.find?_locals
  rw [hvalue, Option.isSome_or, Bool.or_eq_true, isSome_lastAssigned_iff, InTime, hhead, or_comm]
  simp only [Option.some.injEq, exists_eq_left']

/-- A variable of a frame is a variable of the frame ever after. -/
theorem Contained.isSome_find? {early late : Frame} (h : early.Contained late) {name : String}
    (hname : (early.locals.find? name).isSome = true) :
    (late.locals.find? name).isSome = true := by
  obtain ⟨value, hvalue⟩ := Option.isSome_iff_exists.1 hname
  obtain ⟨later, hlater⟩ :=
    Bindings.mem_names_iff.1 (h.names.subset (Bindings.mem_names_iff.2 ⟨value, hvalue⟩))
  exact Option.isSome_iff_exists.2 ⟨later, hlater⟩

end Frame

/-! ### Logs -/

namespace State

variable {events : List Event} {event : Event} {place : Nat} {step : Int}

/-- **At the step of an event** a name is a variable of its frame if and only if it came in time. -/
theorem exists_frame_atStep_self (h : events[place]? = some event) :
    ∃ frame, (atStep events place).frame? event.frame = some frame ∧
      ∀ name, (frame.locals.find? name).isSome = true ↔
        Frame.InTime (Frame.eventsOf event.frame (events.take (place + 1))) name := by
  obtain ⟨frame, hframe, reads⟩ := exists_frame_atStep h (Int.le_refl _)
  rw [eventsThrough_of_lt (List.getElem?_eq_some_iff.1 h).1] at reads
  exact ⟨frame, hframe, reads.isSome_find?_iff⟩

/-- What an event assigns comes in time. -/
theorem inTime_of_assignment? (h : events[place]? = some event) {name : String}
    (hname : (event.assignment? name).isSome = true) :
    Frame.InTime (Frame.eventsOf event.frame (events.take (place + 1))) name := by
  refine .inr ⟨(event, place), Frame.mem_eventsOf.2 ⟨?_, rfl⟩, hname⟩
  rw [List.getElem?_take_of_lt (Nat.lt_succ_self place), h]

/-- **Which logs lose no binding.**  In any log, at the step of an event and at every later one, a
variable of its frame has the value that the events of the frame assigned to it last, or else the
one that came as an argument with the first of them.  So no assignment is ever lost, and a log
loses no binding at all if and only if each argument comes with the event that begins the frame, or
under a name that is bound otherwise by then. -/
theorem keepsBindings_iff (events : List Event) :
    (∀ (step : Int) (place : Nat) (event : Event), events[place]? = some event →
      (place : Int) ≤ step →
      ∃ frame first, (atStep events step).frame? event.frame = some frame ∧
        (Frame.eventsOf event.frame (events.take (eventsThrough events.length step))).head?
          = some (first, frame.createdAt) ∧
        ∀ name, frame.locals.find? name =
          (Frame.lastAssigned (Frame.eventsOf event.frame
            (events.take (eventsThrough events.length step))) name).or (first.argument? name)) ∧
    (KeepsBindings events ↔
      ∀ (place : Nat) (event : Event), events[place]? = some event →
        ∀ name, (event.argument? name).isSome = true →
          Frame.InTime (Frame.eventsOf event.frame (events.take (place + 1))) name) := by
  refine ⟨fun step place event h hle => ?_, fun hkeeps place event h name hname => ?_,
    fun htime step place event h hle name hname => ?_⟩
  · obtain ⟨frame, hframe, reads⟩ := exists_frame_atStep h hle
    obtain ⟨first, hfirst, hvalue⟩ := reads.find?_locals
    exact ⟨frame, first, hframe, hfirst, hvalue⟩
  · -- At the step of the event itself, what is bound came in time.
    obtain ⟨frame, hframe, hbound⟩ := exists_frame_atStep_self h
    obtain ⟨same, hsame, hname⟩ := hkeeps place place event h (Int.le_refl _) name (.inl hname)
    cases hframe.symm.trans hsame
    exact (hbound name).1 hname
  · -- What came in time is bound at the step of the event, and stays bound.
    have hintime : Frame.InTime (Frame.eventsOf event.frame (events.take (place + 1))) name :=
      hname.elim (htime place event h name) (inTime_of_assignment? h)
    obtain ⟨frame, hframe, hbound⟩ := exists_frame_atStep_self h
    obtain ⟨later, hlater, hcontained⟩ :=
      (contained_ofPrefix events (eventsThrough_mono _ hle)).frame _ frame hframe
    exact ⟨later, hlater, hcontained.isSome_find? ((hbound name).2 hintime)⟩

/-- A call with two arguments, one of which is assigned anew. -/
def boundInTime : List Event :=
  [{ Event.plain 0 .call 1 with args := some (.ofPairs [("n", .ofNat 3), ("m", .null)]) },
    { Event.plain 1 .line 1 with
      assignments := some (.ofPairs [("k", .null), ("n", .ofNat 4)]) }]

/-- At the line the value assigned to the argument has taken the place of the one passed, that of
the other argument is still there, and no binding is lost. -/
theorem keepsBindings_iff_boundInTime :
    boundInTime[0]?.map Event.frame = some 1 ∧ (0 : Int) ≤ 1 ∧
      (∃ frame, (atStep boundInTime 1).frame? 1 = some frame ∧ frame.createdAt = 0 ∧
        frame.locals.find? "n" = some (.ofNat 4) ∧ frame.locals.find? "m" = some .null) ∧
      KeepsBindings boundInTime := by
  refine ⟨rfl, by decide, ?_,
    (keepsBindings_iff boundInTime).2.2 fun place event h name hname => ?_⟩
  · obtain ⟨frame, first, hframe, hfirst, hvalue⟩ :=
      (keepsBindings_iff boundInTime).1 1 0 _ rfl (by decide)
    obtain ⟨hevent, hcreated⟩ := Prod.mk.inj (Option.some.inj hfirst)
    subst hevent
    exact ⟨frame, hframe, hcreated.symm, hvalue "n", hvalue "m"⟩
  · -- Only the first event has arguments.
    match place, h with
    | 0, h =>
        cases h
        exact .inl ⟨_, rfl, hname⟩
    | 1, h =>
        cases h
        cases hname

/-- A line of a frame, and only then its call, with an argument. -/
def lateArguments : List Event :=
  [.plain 0 .line 1, { Event.plain 1 .call 1 with args := some (.ofPairs [("n", .ofNat 3)]) }]

/-- **A log that loses a binding**: the argument of the call is not among the locals. -/
theorem not_keepsBindings_lateArguments :
    ¬ KeepsBindings lateArguments ∧
      ((atStep lateArguments 1).frame? 1).map (fun frame => frame.locals.names) = some [] := by
  refine ⟨fun hkeeps => ?_, rfl⟩
  obtain ⟨frame, hframe, hname⟩ := hkeeps 1 1 _ rfl (Int.le_refl _) "n" (.inl rfl)
  cases hframe
  cases hname

end State

end TracePlayer
