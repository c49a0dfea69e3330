/-
**A comparison is complete and minimal.**

What a comparison of two states of a log finds can be carried out on the earlier state: the new
frames begin, the returns close their frames, each entry sets its variable and the output is
printed.  This gives the later state, in all that a change speaks of; and nothing is found that was
there before.

A change says nothing of the functions, the depths and the parents of frames, so it is carried out
on a sketch of a state, which holds the rest.

Main definitions:

* `Sketch`, `State.sketch`: what a change speaks of in a state;
* `Change.applyTo`: a sketch after a change;
* `Sketch.Same`: two sketches agree, their values compared as values;
* `Change.Explains`: a change leads from one state to another and finds nothing else.

Main results:

* `Change.Tells.applyTo`: whatever tells how a state became another one leads from its sketch to
  that of the other;
* `Change.hasChanges_between_eq_false_iff`: a comparison finds nothing if and only if the sketches
  agree;
* `Change.explains_atStep`: **the comparison of two steps explains the later one**.
-/
import TracePlayer.Proofs.Json.Objects
import TracePlayer.Proofs.Program.Chain

set_option autoImplicit false

namespace TracePlayer

/-! ### Sketches -/

/-- What a change speaks of in a frame: whether it has returned, and its variables. -/
structure Sketch.Frame where
  closed : Bool
  locals : Bindings Json

/-- What a change speaks of in a state: the output and the frames. -/
structure Sketch where
  stdout : String
  frame? : FrameId → Option Sketch.Frame

/-- The sketch of a state. -/
def State.sketch (state : State) : Sketch where
  stdout := state.stdout
  frame? id := (state.frame? id).map fun frame => ⟨frame.isClosed, frame.locals⟩

namespace Sketch

/-- The frames of a sketch under their numbers. -/
abbrev Frames := FrameId → Option Sketch.Frame

/-- A frame begins, without variables. -/
def start (frames : Frames) (id : FrameId) : Frames := fun other =>
  if other = id then some ⟨false, .empty⟩ else frames other

/-- A frame returns. -/
def finish (frames : Frames) (id : FrameId) : Frames := fun other =>
  if other = id then (frames other).map fun frame => { frame with closed := true }
  else frames other

/-- A variable is set to the value that an entry gives it. -/
def assign (frames : Frames) (entry : LocalChange) : Frames := fun other =>
  if other = entry.frame then
    (frames other).map fun frame =>
      { frame with locals := frame.locals.insert entry.name entry.new }
  else frames other

/-- Two frames agree: both have returned or neither has, and equal variables have equal values. -/
structure Frame.Same (x y : Sketch.Frame) : Prop where
  closed : x.closed = y.closed
  locals : Json.sameBindings x.locals y.locals = true

/-- Two sketches agree: they have the same output, and the same frames, which agree. -/
structure Same (x y : Sketch) : Prop where
  stdout : x.stdout = y.stdout
  frame : ∀ id, Option.Rel Frame.Same (x.frame? id) (y.frame? id)

end Sketch

/-- A sketch after a change. -/
def Change.applyTo (change : Change) (sketch : Sketch) : Sketch where
  stdout := sketch.stdout ++ change.output
  frame? :=
    let begun := change.created.foldl Sketch.start sketch.frame?
    let ended := change.closed.foldl Sketch.finish begun
    change.locals.foldl Sketch.assign ended

/-! ### A frame after a change -/

namespace Sketch

variable {frames : Frames} {id : FrameId}

theorem foldl_start (ids : List FrameId) :
    ids.foldl start frames id = if id ∈ ids then some ⟨false, .empty⟩ else frames id := by
  induction ids generalizing frames with
  | nil => simp
  | cons first rest ih =>
      rw [List.foldl_cons, ih]
      by_cases hfirst : id = first
      · simp [start, hfirst]
      · simp [start, hfirst]

theorem foldl_finish (ids : List FrameId) :
    ids.foldl finish frames id
      = (frames id).map fun frame =>
          { frame with closed := frame.closed || decide (id ∈ ids) } := by
  induction ids generalizing frames with
  | nil => simp
  | cons first rest ih =>
      rw [List.foldl_cons, ih]
      by_cases hfirst : id = first
      · simp [finish, hfirst, Function.comp_def]
      · simp [finish, hfirst]

/-- The names that entries set in a frame, with their values. -/
def pairsOf (id : FrameId) (entries : List LocalChange) : List (String × Json) :=
  entries.filterMap fun entry => if entry.frame = id then some (entry.name, entry.new) else none

theorem foldl_assign (entries : List LocalChange) :
    entries.foldl assign frames id
      = (frames id).map fun frame =>
          { frame with locals := frame.locals.overlay (pairsOf id entries) } := by
  induction entries generalizing frames with
  | nil => simp [pairsOf]
  | cons entry rest ih =>
      rw [List.foldl_cons, ih]
      by_cases hid : id = entry.frame
      · simp [assign, pairsOf, hid, Function.comp_def]
      · have hne : ¬ entry.frame = id := fun e => hid e.symm
        simp [assign, pairsOf, hid, hne]

theorem mem_pairsOf {entries : List LocalChange} {name : String} {value : Json} :
    (name, value) ∈ pairsOf id entries ↔
      ∃ entry ∈ entries, entry.subject = (id, name) ∧ entry.new = value := by
  simp only [pairsOf, List.mem_filterMap, Option.ite_none_right_eq_some, Option.some_inj,
    Prod.mk.injEq, LocalChange.subject, and_assoc]

end Sketch

/-! ### Sketches that agree -/

namespace State

variable {a b : State} {id : FrameId}

theorem frame?_sketch (state : State) (id : FrameId) :
    state.sketch.frame? id
      = (state.frame? id).map fun frame => ⟨frame.isClosed, frame.locals⟩ := rfl

theorem hasFrame_of_frame? {frame : Frame} (h : a.frame? id = some frame) : a.HasFrame id :=
  ⟨frame, h⟩

theorem hasClosed_iff_of_frame? {frame : Frame} (h : a.frame? id = some frame) :
    a.HasClosed id ↔ frame.isClosed = true := by
  simp [HasClosed, h]

theorem value?_of_frame? {frame : Frame} (h : a.frame? id = some frame) (name : String) :
    a.value? (id, name) = frame.locals.find? name := by
  simp [value?, h]

theorem value?_of_frame?_eq_none (h : a.frame? id = none) (name : String) :
    a.value? (id, name) = none := by
  simp [value?, h]

theorem frame?_eq_none_iff : a.frame? id = none ↔ ¬ a.HasFrame id := by
  simp [HasFrame, Option.eq_none_iff_forall_ne_some]

/-- States whose sketches agree have the same frames, the same of which have returned, and equal
values of their variables. -/
theorem agree_of_same_sketch (h : a.sketch.Same b.sketch) (id : FrameId) :
    (a.HasFrame id ↔ b.HasFrame id) ∧ (a.HasClosed id ↔ b.HasClosed id) ∧
      ∀ name, Json.sameOption (a.value? (id, name)) (b.value? (id, name)) = true := by
  have hrel := h.frame id
  rw [frame?_sketch, frame?_sketch] at hrel
  cases ha : a.frame? id with
  | none =>
      cases hb : b.frame? id with
      | none => simp [HasFrame, HasClosed, value?, ha, hb]
      | some later =>
          rw [ha, hb] at hrel
          cases hrel
  | some earlier =>
      cases hb : b.frame? id with
      | none =>
          rw [ha, hb] at hrel
          cases hrel
      | some later =>
          rw [ha, hb] at hrel
          obtain ⟨hclosed, hlocals⟩ : Sketch.Frame.Same _ _ := by
            cases hrel with
            | some hsame => exact hsame
          simp only at hclosed hlocals
          refine ⟨?_, ?_, ?_⟩
          · exact iff_of_true (hasFrame_of_frame? ha) (hasFrame_of_frame? hb)
          · rw [hasClosed_iff_of_frame? ha, hasClosed_iff_of_frame? hb, hclosed]
          · intro name
            rw [value?_of_frame? ha, value?_of_frame? hb]
            exact Json.sameBindings_iff.1 hlocals name

end State

/-! ### Completeness -/

namespace Change

variable {a b : State} {change : Change} {id : FrameId}

theorem frame?_applyTo (change : Change) (sketch : Sketch) (id : FrameId) :
    (change.applyTo sketch).frame? id
      = (if id ∈ change.created then some ⟨false, .empty⟩ else sketch.frame? id).map fun frame =>
          { closed := frame.closed || decide (id ∈ change.closed)
            locals := frame.locals.overlay (Sketch.pairsOf id change.locals) } := by
  simp only [applyTo, Sketch.foldl_assign, Sketch.foldl_finish, Sketch.foldl_start,
    Option.map_map, Function.comp_def]

/-- Before the returns and the variables, the frames are those of the later state, in the form that
the earlier one gives them. -/
theorem Tells.exists_begun (h : change.Tells a b) (hid : b.HasFrame id) :
    ∃ frame : Sketch.Frame,
      (if id ∈ change.created then some ⟨false, .empty⟩ else a.sketch.frame? id) = some frame ∧
        (frame.closed = true ↔ a.HasClosed id) ∧
          ∀ name, frame.locals.find? name = a.value? (id, name) := by
  by_cases hold : a.HasFrame id
  · obtain ⟨earlier, hearlier⟩ := hold
    have hnot : id ∉ change.created := fun hmem =>
      ((h.created.mem_iff id).1 hmem).2 ⟨earlier, hearlier⟩
    refine ⟨⟨earlier.isClosed, earlier.locals⟩, ?_, ?_, ?_⟩
    · rw [if_neg hnot, State.frame?_sketch, hearlier, Option.map_some]
    · exact (State.hasClosed_iff_of_frame? hearlier).symm
    · intro name
      exact (State.value?_of_frame? hearlier name).symm
  · have hnew : id ∈ change.created := (h.created.mem_iff id).2 ⟨hid, hold⟩
    have hnone : a.frame? id = .none := State.frame?_eq_none_iff.2 hold
    refine ⟨⟨false, .empty⟩, if_pos hnew, ?_, ?_⟩
    · simp [State.HasClosed, hnone]
    · intro name
      rw [State.value?_of_frame?_eq_none hnone]
      rfl

/-- The value that the entries leave to a variable is the one that it has later. -/
theorem Tells.sameOption_overlay (h : change.Tells a b) {locals : Bindings Json}
    (hlocals : ∀ name, locals.find? name = a.value? (id, name)) (name : String) :
    Json.sameOption ((locals.overlay (Sketch.pairsOf id change.locals)).find? name)
      (b.value? (id, name)) = true := by
  rw [Bindings.find?_overlay]
  cases hlookup : (Sketch.pairsOf id change.locals).reverse.lookup name with
  | some value =>
      have hpair : (name, value) ∈ Sketch.pairsOf id change.locals :=
        List.mem_reverse.1 (Json.mem_of_lookup hlookup)
      obtain ⟨entry, hentry, hsubject, rfl⟩ := Sketch.mem_pairsOf.1 hpair
      rw [← hsubject]
      exact h.new entry hentry
  | none =>
      -- No entry is about the variable, so it has the value that it had.
      have hnot : (id, name) ∉ subjects change.locals := by
        intro hmem
        obtain ⟨entry, hentry, hsubject⟩ := List.mem_map.1 hmem
        have hpair := Sketch.mem_pairsOf.2 ⟨entry, hentry, hsubject, rfl⟩
        have hnone := List.lookup_eq_none_iff.1 hlookup _ (List.mem_reverse.2 hpair)
        simp at hnone
      rw [Option.none_or, hlocals]
      exact h.same (id, name) hnot

/-- **Whatever tells how a state became another one leads from its sketch to that of the other.** -/
theorem Tells.applyTo (h : change.Tells a b) (hab : a.Contained b) :
    (change.applyTo a.sketch).Same b.sketch where
  stdout := h.output.symm
  frame id := by
    rw [frame?_applyTo]
    cases hlater : b.frame? id with
    | none =>
        have hnot : ¬ b.HasFrame id := State.frame?_eq_none_iff.1 hlater
        have hold : a.frame? id = .none :=
          State.frame?_eq_none_iff.2 fun hid => hnot (hab.hasFrame hid)
        have hcreated : id ∉ change.created := fun hmem => hnot ((h.created.mem_iff id).1 hmem).1
        rw [if_neg hcreated, State.frame?_sketch, State.frame?_sketch, hold, hlater]
        exact .none
    | some later =>
        obtain ⟨frame, hframe, hclosed, hlocals⟩ := h.exists_begun ⟨later, hlater⟩
        rw [hframe, State.frame?_sketch, hlater, Option.map_some, Option.map_some]
        refine .some ⟨?_, ?_⟩
        · -- A frame has returned later if it had before, or if it is among the returns.
          have hreturned := h.closed.mem_iff id
          have hkept : a.HasClosed id → b.HasClosed id := hab.hasClosed
          rw [State.hasClosed_iff_of_frame? hlater] at hreturned hkept
          rw [Bool.eq_iff_iff, Bool.or_eq_true, decide_eq_true_eq, hclosed, hreturned]
          constructor
          · rintro (hbefore | ⟨hnow, -⟩)
            · exact hkept hbefore
            · exact hnow
          · intro hnow
            by_cases hbefore : a.HasClosed id
            · exact .inl hbefore
            · exact .inr ⟨hnow, hbefore⟩
        · refine Json.sameBindings_iff.2 fun name => ?_
          rw [← State.value?_of_frame? hlater]
          exact h.sameOption_overlay hlocals name

/-! ### What is found -/

theorem hasChanges_eq_false_iff :
    change.hasChanges = false ↔
      change.created = [] ∧ change.closed = [] ∧ change.locals = [] ∧ change.output = "" := by
  simp [hasChanges, and_assoc]

/-- **A comparison finds nothing if and only if the sketches agree.** -/
theorem hasChanges_between_eq_false_iff (hab : a.Contained b) :
    (between a b).hasChanges = false ↔ a.sketch.Same b.sketch := by
  have htells := tells_between hab
  rw [hasChanges_eq_false_iff]
  constructor
  · rintro ⟨hcreated, hclosed, hlocals, houtput⟩
    have hsame := htells.applyTo hab
    have hnothing : (between a b).applyTo a.sketch = a.sketch := by
      simp [Change.applyTo, hcreated, hclosed, hlocals, houtput]
    rwa [hnothing] at hsame
  · intro hsame
    have hagree := State.agree_of_same_sketch hsame
    refine ⟨?_, ?_, ?_, ?_⟩
    · refine List.eq_nil_iff_forall_not_mem.2 fun id hmem => ?_
      obtain ⟨hnow, hbefore⟩ := (htells.created.mem_iff id).1 hmem
      exact hbefore ((hagree id).1.2 hnow)
    · refine List.eq_nil_iff_forall_not_mem.2 fun id hmem => ?_
      obtain ⟨hnow, hbefore⟩ := (htells.closed.mem_iff id).1 hmem
      exact hbefore ((hagree id).2.1.2 hnow)
    · refine List.eq_nil_iff_forall_not_mem.2 fun entry hmem => ?_
      obtain ⟨hnew, hold, hchanged⟩ := mem_locals_between.1 hmem
      have hvalues := (hagree entry.frame).2.2 entry.name
      rw [hold, ← hnew] at hchanged
      exact absurd (hvalues.symm.trans hchanged) (by decide)
    · have hprinted : a.stdout ++ "" = a.stdout ++ (between a b).output :=
        String.append_empty.trans (hsame.stdout.trans htells.output)
      exact ((String.append_right_inj _).1 hprinted).symm

/-! ### Steps of a log -/

/-- **A change explains how one state became another, and nothing else.** -/
structure Explains (change : Change) (before after : State) : Prop where
  /-- Carried out on the earlier state, it gives the later one. -/
  complete : (change.applyTo before.sketch).Same after.sketch
  /-- It lists each frame once that began or returned since, and no other. -/
  created : ListsNew change.created before.HasFrame after.HasFrame
  closed : ListsNew change.closed before.HasClosed after.HasClosed
  /-- It has one entry at most for a variable, from the value before to another one after. -/
  keyed : change.Keyed
  entries : ∀ entry ∈ change.locals,
    entry.old = before.value? (entry.frame, entry.name) ∧
      some entry.new = after.value? (entry.frame, entry.name) ∧
        Json.sameOption entry.old (some entry.new) = false
  /-- It is empty if and only if the two states agree. -/
  hasChanges : change.hasChanges = false ↔ before.sketch.Same after.sketch

/-- **The comparison of two steps explains the later one**, for any two steps in order, before the
first and after the last one included. -/
theorem explains_atStep (events : List Event) {first last : Int} (h : first ≤ last) :
    (between (State.atStep events first) (State.atStep events last)).Explains
      (State.atStep events first) (State.atStep events last) := by
  have hab := State.contained_ofPrefix events (State.eventsThrough_mono events.length h)
  have htells := tells_between hab
  refine ⟨htells.applyTo hab, htells.created, htells.closed, htells.keyed, ?_,
    hasChanges_between_eq_false_iff hab⟩
  intro entry hentry
  obtain ⟨hnew, hold, hchanged⟩ := mem_locals_between.1 hentry
  exact ⟨hold, hnew.symm, hchanged⟩

/-- Between these steps one frame begins, another one returns, and a variable that is bound anew and
then as before is not listed. -/
theorem explains_atStep_goesBack :
    (0 : Int) ≤ 4 ∧
      (between (State.atStep goesBack 0) (State.atStep goesBack 4)).created = [1] ∧
      (between (State.atStep goesBack 0) (State.atStep goesBack 4)).closed = [2] ∧
      subjects (between (State.atStep goesBack 0) (State.atStep goesBack 4)).locals
        = [(1, "y")] ∧
      (between (State.atStep goesBack 0) (State.atStep goesBack 4)).Explains
        (State.atStep goesBack 0) (State.atStep goesBack 4) :=
  ⟨by decide, by decide +kernel, by decide +kernel, by decide +kernel,
    explains_atStep goesBack (by decide)⟩

end Change

end TracePlayer
