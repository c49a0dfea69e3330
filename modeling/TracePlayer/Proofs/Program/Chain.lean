/-
**Changes along a chain of steps.**

A log is compared at every step of a chain with the step after it, and the changes are merged.  The
outcome tells as much as one comparison of the two ends: the same output, the same new frames and
returns, and an entry for every variable that changed on the way, from its value at the first end to
its value at the last one.  A variable that changed and changed back keeps its entry; nothing else
tells the two apart.

What carries the argument is that a state only grows, so that no frame begins, and none returns,
between two pairs of states.

Main definitions:

* `Change.Tells`: **the invariant**, a change tells how one state became another;
* `Change.Summarizes`: a merged change against the direct comparison of two states;
* `Change.along`: the changes along a chain of steps.

Main results:

* `Change.tells_between`, `Change.Tells.merge`: a comparison tells how a state became another one,
  and so do two changes that meet in a state;
* `Change.Tells.summarizes`: whatever tells it agrees with the direct comparison;
* `Merging.summarizes_along`: **the changes along a chain, merged in whatever way, sum up to the
  change from its first to its last step**.
-/
import Mathlib.Data.List.Perm.Basic
import TracePlayer.Proofs.Json.Same
import TracePlayer.Proofs.Program.Comparison

set_option autoImplicit false

namespace TracePlayer

/-- Two entries of one variable with equal values. -/
structure LocalChange.Same (x y : LocalChange) : Prop where
  subject : x.subject = y.subject
  old : Json.sameOption x.old y.old = true
  new : Json.same x.new y.new = true

namespace Change

variable {a b c : State} {change first second : Change}

/-! ### The invariant -/

/-- **A change tells how one state became another.** -/
structure Tells (change : Change) (a b : State) : Prop where
  /-- The output is what was printed. -/
  output : b.stdout = a.stdout ++ change.output
  /-- The new frames are those that were not there before. -/
  created : ListsNew change.created a.HasFrame b.HasFrame
  /-- The returns are those of the frames that were open before. -/
  closed : ListsNew change.closed a.HasClosed b.HasClosed
  /-- No variable has two entries. -/
  keyed : change.Keyed
  /-- An entry leads from the value that its variable had to the value that it has. -/
  old : ∀ entry ∈ change.locals, Json.sameOption entry.old (a.value? entry.subject) = true
  new : ∀ entry ∈ change.locals, Json.sameOption (some entry.new) (b.value? entry.subject) = true
  /-- A variable without an entry has the value that it had. -/
  same : ∀ subject, subject ∉ subjects change.locals →
    Json.sameOption (a.value? subject) (b.value? subject) = true

/-- Without a change nothing becomes of a state. -/
theorem tells_none (state : State) : none.Tells state state where
  output := String.append_empty.symm
  created := .nil _
  closed := .nil _
  keyed := keyed_none
  old _ h := absurd h List.not_mem_nil
  new _ h := absurd h List.not_mem_nil
  same _ _ := Json.sameOption_refl _

/-- **A comparison tells how an earlier state became a later one.** -/
theorem tells_between (h : a.Contained b) : (between a b).Tells a b where
  output := output_between h
  created := listsNew_created_between a b
  closed := listsNew_closed_between a b
  keyed := keyed_between a b
  old entry hentry := by
    rw [(mem_locals_between.1 hentry).2.1]
    exact Json.sameOption_refl _
  new entry hentry := by
    rw [(mem_locals_between.1 hentry).1]
    exact Json.sameOption_refl _
  same subject hnot := by
    cases hlater : b.value? subject with
    | none =>
        -- A value is never taken away, so there was none before.
        cases hearlier : a.value? subject with
        | none => rfl
        | some value =>
            obtain ⟨later, hsome⟩ := h.exists_value? hearlier
            rw [hlater] at hsome
            cases hsome
    | some value =>
        by_contra hchanged
        let entry : LocalChange := ⟨subject.1, subject.2, a.value? subject, value⟩
        have hentry : entry ∈ (between a b).locals :=
          mem_locals_between.2 ⟨hlater, rfl, eq_false_of_ne_true hchanged⟩
        exact hnot (List.mem_map_of_mem (f := LocalChange.subject) hentry)

/-- **Two changes that meet in a state tell, one after the other, how the first state became the
last one.** -/
theorem Tells.merge (hfirst : first.Tells a b) (hsecond : second.Tells b c)
    (hab : a.Contained b) (hbc : b.Contained c) : (first.merge second).Tells a c where
  output := by
    rw [hsecond.output, hfirst.output, String.append_assoc]
    rfl
  created := hfirst.created.append hsecond.created (fun _ => hab.hasFrame) fun _ => hbc.hasFrame
  closed := hfirst.closed.append hsecond.closed (fun _ => hab.hasClosed) fun _ => hbc.hasClosed
  keyed := hfirst.keyed.merge second
  old entry hentry := by
    rcases mem_mergeLocals hfirst.keyed hsecond.keyed hentry with
      ⟨hmem, -⟩ | ⟨x, hx, y, -, -, rfl⟩ | ⟨hmem, hnot⟩
    · exact hfirst.old entry hmem
    · exact hfirst.old x hx
    · -- The variable had no entry before, so it kept its value up to the state in the middle.
      have hkept := Json.sameOption_symm (hfirst.same entry.subject hnot)
      exact Json.sameOption_trans (hsecond.old entry hmem) hkept
  new entry hentry := by
    rcases mem_mergeLocals hfirst.keyed hsecond.keyed hentry with
      ⟨hmem, hnot⟩ | ⟨x, -, y, hy, hxy, rfl⟩ | ⟨hmem, -⟩
    · exact Json.sameOption_trans (hfirst.new entry hmem) (hsecond.same entry.subject hnot)
    · rw [LocalChange.subject_followedBy, hxy]
      exact hsecond.new y hy
    · exact hsecond.new entry hmem
  same subject hnot := by
    have hneither : subject ∉ subjects first.locals ∧ subject ∉ subjects second.locals :=
      not_or.1 fun h => hnot (mem_subjects_mergeLocals.2 h)
    exact Json.sameOption_trans (hfirst.same subject hneither.1)
      (hsecond.same subject hneither.2)

/-! ### Against the direct comparison -/

/-- The entries that lead from one value to another. -/
def lasting (change : Change) : List LocalChange :=
  change.locals.filter fun entry => !Json.sameOption entry.old (some entry.new)

/-- **A change sums up what the direct comparison of two states finds.** -/
structure Summarizes (change : Change) (before after : State) : Prop where
  /-- It has the same output. -/
  output : change.output = (between before after).output
  /-- It has the same frames and returns in some order, and none twice. -/
  created : change.created.Perm (between before after).created ∧ change.created.Nodup
  closed : change.closed.Perm (between before after).closed ∧ change.closed.Nodup
  /-- It has at most one entry for a variable. -/
  keyed : change.Keyed
  /-- Each entry leads from the first value of its variable to the last one. -/
  values : ∀ entry ∈ change.locals,
    Json.sameOption entry.old (before.value? (entry.frame, entry.name)) = true ∧
      Json.sameOption (some entry.new) (after.value? (entry.frame, entry.name)) = true
  /-- Without the entries that lead back to where they began, the entries are, in some order and
  with equal values, those of the direct comparison. -/
  changed : ∃ entries, change.lasting.Perm entries ∧
    List.Forall₂ LocalChange.Same entries (between before after).locals

theorem mem_lasting {entry : LocalChange} :
    entry ∈ change.lasting ↔
      entry ∈ change.locals ∧ Json.sameOption entry.old (some entry.new) = false := by
  rw [lasting, List.mem_filter, Bool.not_eq_true']

theorem lasting_between (a b : State) : (between a b).lasting = (between a b).locals := by
  refine List.filter_eq_self.2 fun entry hentry => ?_
  rw [(mem_locals_between.1 hentry).2.2]
  rfl

namespace Tells

/-- Entries that tell the same of one variable are equal. -/
theorem same_entry (hfirst : first.Tells a b) (hsecond : second.Tells a b) {x y : LocalChange}
    (hx : x ∈ first.locals) (hy : y ∈ second.locals) (hxy : x.subject = y.subject) : x.Same y where
  subject := hxy
  old := Json.sameOption_trans (hxy ▸ hfirst.old x hx) (Json.sameOption_symm (hsecond.old y hy))
  new := by
    have hx_new := hfirst.new x hx
    rw [hxy] at hx_new
    exact Json.sameOption_trans hx_new (Json.sameOption_symm (hsecond.new y hy))

/-- The lasting entries are those of the variables whose value is another one. -/
theorem mem_subjects_lasting (h : change.Tells a b) {subject : FrameId × String} :
    subject ∈ subjects change.lasting ↔
      Json.sameOption (a.value? subject) (b.value? subject) = false := by
  constructor
  · intro hsubject
    obtain ⟨entry, hentry, rfl⟩ := List.mem_map.1 hsubject
    obtain ⟨hmem, hchanged⟩ := mem_lasting.1 hentry
    rwa [Json.sameOption_congr (h.old entry hmem) (h.new entry hmem)] at hchanged
  · intro hchanged
    have hsubject : subject ∈ subjects change.locals := by
      by_contra hnot
      rw [h.same subject hnot] at hchanged
      cases hchanged
    obtain ⟨entry, hmem, rfl⟩ := List.mem_map.1 hsubject
    rw [← Json.sameOption_congr (h.old entry hmem) (h.new entry hmem)] at hchanged
    exact List.mem_map_of_mem (mem_lasting.2 ⟨hmem, hchanged⟩)

theorem nodup_subjects_lasting (h : change.Tells a b) : (subjects change.lasting).Nodup :=
  h.keyed.sublist (List.filter_sublist.map LocalChange.subject)

/-- **The lasting entries of two changes that tell the same are equal**, in some order. -/
theorem exists_perm_lasting (hfirst : first.Tells a b) (hsecond : second.Tells a b) :
    ∃ entries, first.lasting.Perm entries ∧
      List.Forall₂ LocalChange.Same entries second.lasting := by
  have hsubjects : (subjects second.lasting).Perm (subjects first.lasting) :=
    (List.perm_ext_iff_of_nodup hsecond.nodup_subjects_lasting
      hfirst.nodup_subjects_lasting).2 fun _ =>
        hsecond.mem_subjects_lasting.trans hfirst.mem_subjects_lasting.symm
  -- The entries of the first change are put into the order of the second one.
  obtain ⟨entries, heq, hperm⟩ :
      ∃ entries, subjects second.lasting = subjects entries ∧ entries.Perm first.lasting := by
    have h := List.eq_map_comp_perm LocalChange.subject
    exact (congrFun (congrFun h _) _).mpr hsubjects
  have halign : List.Forall₂ (fun x y : LocalChange => x.subject = y.subject) entries
      second.lasting := by
    have hmaps : List.Forall₂ (· = ·) (subjects entries) (subjects second.lasting) :=
      List.forall₂_eq_eq_eq ▸ heq.symm
    exact List.forall₂_map_left_iff.1 (List.forall₂_map_right_iff.1 hmaps)
  refine ⟨entries, hperm.symm, ?_⟩
  refine List.forall₂_iff_zip.2 ⟨halign.length_eq, fun {x y} hxy => ?_⟩
  obtain ⟨hx, hy⟩ := List.of_mem_zip hxy
  exact hfirst.same_entry hsecond (mem_lasting.1 (hperm.mem_iff.1 hx)).1 (mem_lasting.1 hy).1
    ((List.forall₂_iff_zip.1 halign).2 hxy)

/-- **Whatever tells how an earlier state became a later one agrees with the direct comparison.** -/
theorem summarizes (h : change.Tells a b) (hab : a.Contained b) : change.Summarizes a b := by
  have hdirect := tells_between hab
  have houtput : a.stdout ++ change.output = a.stdout ++ (between a b).output :=
    h.output.symm.trans hdirect.output
  exact
    { output := (String.append_right_inj _).1 houtput
      created := ⟨h.created.perm hdirect.created, h.created.nodup⟩
      closed := ⟨h.closed.perm hdirect.closed, h.closed.nodup⟩
      keyed := h.keyed
      values := fun entry hentry => ⟨h.old entry hentry, h.new entry hentry⟩
      changed := lasting_between a b ▸ h.exists_perm_lasting hdirect }

end Tells

/-! ### Chains of steps -/

/-- The changes along a chain of steps, each from one step to the next. -/
def along (events : List Event) : List Int → List Change
  | first :: second :: rest =>
      between (State.atStep events first) (State.atStep events second)
        :: along events (second :: rest)
  | _ => []

variable {events : List Event} {steps rest : List Int} {start last step : Int}

theorem keyed_along (h : change ∈ along events steps) : change.Keyed := by
  induction steps with
  | nil => cases h
  | cons step rest ih =>
      cases rest with
      | nil => cases h
      | cons next rest =>
          rcases List.mem_cons.1 h with rfl | hrest
          · exact keyed_between _ _
          · exact ih hrest

/-- What tells how a state became that of a step, merged with the changes along a chain from there
on, tells how it became that of the last step. -/
theorem Tells.foldl_along {state : State} (h : change.Tells state (State.atStep events step))
    (contained : state.Contained (State.atStep events step))
    (ascends : (step :: rest).IsChain (· ≤ ·)) (hlast : (step :: rest).getLast? = some last) :
    state.Contained (State.atStep events last) ∧
      ((along events (step :: rest)).foldl Change.merge change).Tells state
        (State.atStep events last) := by
  induction rest generalizing step change with
  | nil =>
      obtain rfl : step = last := by simpa using hlast
      exact ⟨contained, h⟩
  | cons next rest ih =>
      obtain ⟨hle, hrest⟩ := List.isChain_cons_cons.1 ascends
      have hstep : (State.atStep events step).Contained (State.atStep events next) :=
        State.contained_ofPrefix events (State.eventsThrough_mono events.length hle)
      have hmerged := h.merge (tells_between hstep) contained hstep
      rw [List.getLast?_cons_cons] at hlast
      exact ih hmerged (contained.trans hstep) hrest hlast

end Change

/-- **The changes along a chain of steps sum up to the change from its first to its last step**, in
whatever way they are merged: it is as if they were merged one by one from the left, and the outcome
agrees with the direct comparison. -/
theorem Merging.summarizes_along {events : List Event} {steps : List Int} {first last : Int}
    {merging : Merging} (hfirst : steps.head? = some first) (hlast : steps.getLast? = some last)
    (ascends : steps.IsChain (· ≤ ·)) (h : merging.changes = Change.along events steps) :
    merging.result = (Change.along events steps).foldl Change.merge .none ∧
      merging.result.Summarizes (State.atStep events first) (State.atStep events last) := by
  have hresult : merging.result = (Change.along events steps).foldl Change.merge .none := by
    rw [result_eq_foldl fun change hmem => Change.keyed_along (h ▸ hmem), h]
  obtain ⟨rest, rfl⟩ := List.head?_eq_some_iff.1 hfirst
  have htells := (Change.tells_none (State.atStep events first)).foldl_along (.refl _) ascends hlast
  exact ⟨hresult, hresult ▸ htells.2.summarizes htells.1⟩

/-- A variable of frame 2 is bound anew and then as before, while frame 1 begins. -/
def goesBack : List Event :=
  [{ Event.plain 0 .call 2 with args := some (.ofPairs [("x", .ofNat 1)]) },
    { Event.plain 1 .line 1 with assignments := some (.ofPairs [("y", .null)]) },
    { Event.plain 2 .line 2 with assignments := some (.ofPairs [("x", .ofNat 2)]) },
    { Event.plain 3 .line 2 with assignments := some (.ofPairs [("x", .ofNat 1)]) },
    Event.plain 4 .ret 2]

/-- The changes of this log, merged from both ends. -/
def goesBackMerging : Merging :=
  .both (.both (.single (.between (State.atStep goesBack 0) (State.atStep goesBack 1)))
      (.single (.between (State.atStep goesBack 1) (State.atStep goesBack 2))))
    (.both (.single (.between (State.atStep goesBack 2) (State.atStep goesBack 3)))
      (.single (.between (State.atStep goesBack 3) (State.atStep goesBack 9))))

/-- The variable that was bound as before has an entry in the merged change, and none in the direct
comparison. -/
theorem Merging.summarizes_along_goesBack :
    goesBackMerging.result.locals.map LocalChange.subject = [(1, "y"), (2, "x")] ∧
      (Change.between (State.atStep goesBack 0) (State.atStep goesBack 9)).locals.map
        LocalChange.subject = [(1, "y")] ∧
      goesBackMerging.changes = Change.along goesBack [0, 1, 2, 3, 9] ∧
      goesBackMerging.result.Summarizes (State.atStep goesBack 0) (State.atStep goesBack 9) := by
  have ascends : [(0 : Int), 1, 2, 3, 9].IsChain (· ≤ ·) := by decide
  exact ⟨by decide +kernel, by decide +kernel, rfl,
    (summarizes_along rfl rfl ascends rfl).2⟩

end TracePlayer
