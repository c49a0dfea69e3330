/-
**Merging changes.**

A merged change has its entries in the order in which their variables changed for the first time;
the later value of a variable goes into the entry that it has already.  Changes that compare two
states hold one entry of a variable at most, and for such changes merging is associative: a sequence
of them may be merged two by two in whatever way, as long as its order is kept.

That one entry is enough matters: of two entries of one variable in the second change, the first
would take over the value of a third change and then lose it to the second.

Main definitions:

* `LocalChange.subject`, `Change.Keyed`: the variable an entry is about, and that no variable has
  two entries;
* `Merging`, `Merging.changes`, `Merging.result`: a way to merge a sequence of changes two by two.

Main results:

* `Change.mem_mergeLocals`, `Change.mem_subjects_mergeLocals`: where the entries of a merged change
  come from, and that all variables have one;
* `Change.merge_assoc`: merging is associative;
* `Merging.result_eq_foldl`: a sequence of changes can be merged in one way only.
-/
import TracePlayer.Program.Change

set_option autoImplicit false

namespace TracePlayer

/-! ### Entries by variable -/

namespace LocalChange

/-- The variable that an entry is about. -/
def subject (entry : LocalChange) : FrameId × String := (entry.frame, entry.name)

theorem subject_eq_iff {x y : LocalChange} :
    x.subject = y.subject ↔ x.frame = y.frame ∧ x.name = y.name := Prod.ext_iff

/-- An entry that takes over the later value of another one. -/
def followedBy (entry later : LocalChange) : LocalChange := { entry with new := later.new }

@[simp] theorem subject_followedBy (entry later : LocalChange) :
    (entry.followedBy later).subject = entry.subject := rfl

end LocalChange

open LocalChange (subject_followedBy subject_eq_iff)

namespace Change

/-- The variables of some entries. -/
def subjects (entries : List LocalChange) : List (FrameId × String) :=
  entries.map LocalChange.subject

/-- **No variable has two entries.** -/
def Keyed (change : Change) : Prop := (subjects change.locals).Nodup

/-- The entries of two changes, one after the other. -/
def mergeLocals (first second : List LocalChange) : List LocalChange :=
  second.foldl mergeLocal first

variable {entries first second third rest : List LocalChange} {x y z entry : LocalChange}

@[simp] theorem subjects_nil : subjects [] = [] := rfl

@[simp] theorem subjects_cons (x : LocalChange) (rest : List LocalChange) :
    subjects (x :: rest) = x.subject :: subjects rest := rfl

@[simp] theorem subjects_append (first second : List LocalChange) :
    subjects (first ++ second) = subjects first ++ subjects second := List.map_append

@[simp] theorem mergeLocals_nil (first : List LocalChange) : mergeLocals first [] = first := rfl

@[simp] theorem mergeLocals_cons (first : List LocalChange) (y : LocalChange)
    (rest : List LocalChange) :
    mergeLocals first (y :: rest) = mergeLocals (mergeLocal first y) rest := rfl

/-! ### One entry -/

theorem mergeLocal_cons_of_eq (h : x.subject = y.subject) :
    mergeLocal (x :: rest) y = x.followedBy y :: rest := if_pos (subject_eq_iff.1 h)

theorem mergeLocal_cons_of_ne (h : x.subject ≠ y.subject) :
    mergeLocal (x :: rest) y = x :: mergeLocal rest y :=
  if_neg fun hsame => h (subject_eq_iff.2 hsame)

/-- An entry of a new variable goes to the end. -/
theorem mergeLocal_of_notMem (h : y.subject ∉ subjects entries) :
    mergeLocal entries y = entries ++ [y] := by
  induction entries with
  | nil => rfl
  | cons x rest ih =>
      rw [subjects_cons, List.mem_cons, not_or] at h
      obtain ⟨hne, hrest⟩ := h
      rw [mergeLocal_cons_of_ne (Ne.symm hne), ih hrest, List.cons_append]

/-- An entry of a variable that has one changes no variable. -/
theorem subjects_mergeLocal_of_mem (h : y.subject ∈ subjects entries) :
    subjects (mergeLocal entries y) = subjects entries := by
  induction entries with
  | nil => simp at h
  | cons x rest ih =>
      by_cases hxy : x.subject = y.subject
      · rw [mergeLocal_cons_of_eq hxy, subjects_cons, subjects_cons, subject_followedBy]
      · have hrest : y.subject ∈ subjects rest :=
          (List.mem_cons.1 h).resolve_left fun e => hxy e.symm
        rw [mergeLocal_cons_of_ne hxy, subjects_cons, subjects_cons, ih hrest]

theorem mem_subjects_mergeLocal {key : FrameId × String} :
    key ∈ subjects (mergeLocal entries y) ↔ key ∈ subjects entries ∨ key = y.subject := by
  by_cases hy : y.subject ∈ subjects entries
  · rw [subjects_mergeLocal_of_mem hy]
    exact (or_iff_left_of_imp fun e => e ▸ hy).symm
  · rw [mergeLocal_of_notMem hy]
    simp

theorem nodup_subjects_mergeLocal (h : (subjects entries).Nodup) (y : LocalChange) :
    (subjects (mergeLocal entries y)).Nodup := by
  by_cases hy : y.subject ∈ subjects entries
  · rwa [subjects_mergeLocal_of_mem hy]
  · rw [mergeLocal_of_notMem hy, subjects_append]
    refine List.nodup_append.2 ⟨h, by simp, fun a ha b hb => ?_⟩
    obtain rfl : b = y.subject := by simpa using hb
    exact fun e => hy (e ▸ ha)

/-- Where an entry comes from: it is an earlier one of another variable, or an earlier one that
takes over the later value, or the later one itself. -/
theorem mem_mergeLocal (h : (subjects entries).Nodup) (hentry : entry ∈ mergeLocal entries y) :
    (entry ∈ entries ∧ entry.subject ≠ y.subject) ∨
      (∃ x ∈ entries, x.subject = y.subject ∧ entry = x.followedBy y) ∨
        (y.subject ∉ subjects entries ∧ entry = y) := by
  induction entries with
  | nil => exact .inr (.inr ⟨List.not_mem_nil, List.mem_singleton.1 hentry⟩)
  | cons x rest ih =>
      obtain ⟨hx, hrest⟩ := List.nodup_cons.1 h
      by_cases hxy : x.subject = y.subject
      · rw [mergeLocal_cons_of_eq hxy] at hentry
        rcases List.mem_cons.1 hentry with rfl | hmem
        · exact .inr (.inl ⟨x, List.mem_cons_self, hxy, rfl⟩)
        · have hne : entry.subject ≠ y.subject := fun e =>
            hx (hxy.trans e.symm ▸ List.mem_map_of_mem hmem)
          exact .inl ⟨List.mem_cons_of_mem _ hmem, hne⟩
      · rw [mergeLocal_cons_of_ne hxy] at hentry
        rcases List.mem_cons.1 hentry with rfl | hmem
        · exact .inl ⟨List.mem_cons_self, hxy⟩
        · rcases ih hrest hmem with ⟨hold, hne⟩ | ⟨z, hz, hzy, rfl⟩ | ⟨hnew, rfl⟩
          · exact .inl ⟨List.mem_cons_of_mem _ hold, hne⟩
          · exact .inr (.inl ⟨z, List.mem_cons_of_mem _ hz, hzy, rfl⟩)
          · exact .inr (.inr ⟨List.not_mem_cons_of_ne_of_not_mem (Ne.symm hxy) hnew, rfl⟩)

/-! ### All entries of a change -/

/-- All variables of both changes have an entry. -/
theorem mem_subjects_mergeLocals {key : FrameId × String} :
    key ∈ subjects (mergeLocals first second) ↔
      key ∈ subjects first ∨ key ∈ subjects second := by
  induction second generalizing first with
  | nil => simp
  | cons y rest ih => rw [mergeLocals_cons, ih, mem_subjects_mergeLocal, subjects_cons,
      List.mem_cons, or_assoc]

theorem nodup_subjects_mergeLocals (h : (subjects first).Nodup) (second : List LocalChange) :
    (subjects (mergeLocals first second)).Nodup := by
  induction second generalizing first with
  | nil => exact h
  | cons y rest ih => exact ih (nodup_subjects_mergeLocal h y)

/-- **Where an entry of a merged change comes from**: it stands in one of the two changes, and the
other one has none of its variable, or it is the first entry of its variable with the value of the
second. -/
theorem mem_mergeLocals (hfirst : (subjects first).Nodup) (hsecond : (subjects second).Nodup)
    (h : entry ∈ mergeLocals first second) :
    (entry ∈ first ∧ entry.subject ∉ subjects second) ∨
      (∃ x ∈ first, ∃ y ∈ second, x.subject = y.subject ∧ entry = x.followedBy y) ∨
        (entry ∈ second ∧ entry.subject ∉ subjects first) := by
  induction second generalizing first with
  | nil => exact .inl ⟨h, List.not_mem_nil⟩
  | cons y rest ih =>
      obtain ⟨hy, hrest⟩ := List.nodup_cons.1 hsecond
      rcases ih (nodup_subjects_mergeLocal hfirst y) hrest h with
        ⟨hmem, hnot⟩ | ⟨x, hx, z, hz, hxz, rfl⟩ | ⟨hmem, hnot⟩
      · rcases mem_mergeLocal hfirst hmem with ⟨hold, hne⟩ | ⟨x, hx, hxy, rfl⟩ | ⟨hnew, rfl⟩
        · exact .inl ⟨hold, List.not_mem_cons_of_ne_of_not_mem hne hnot⟩
        · exact .inr (.inl ⟨x, hx, y, List.mem_cons_self, hxy, rfl⟩)
        · exact .inr (.inr ⟨List.mem_cons_self, hnew⟩)
      · -- The later entry is of another variable than `y`, so `y` left the earlier one alone.
        have hzy : z.subject ≠ y.subject := fun e => hy (e ▸ List.mem_map_of_mem hz)
        rcases mem_mergeLocal hfirst hx with ⟨hold, -⟩ | ⟨w, -, hwy, rfl⟩ | ⟨-, rfl⟩
        · exact .inr (.inl ⟨x, hold, z, List.mem_cons_of_mem _ hz, hxz, rfl⟩)
        · exact absurd (hxz.symm.trans hwy) hzy
        · exact absurd hxz.symm hzy
      · have hfirst : entry.subject ∉ subjects first := fun e =>
          hnot (mem_subjects_mergeLocal.2 (.inl e))
        exact .inr (.inr ⟨List.mem_cons_of_mem _ hmem, hfirst⟩)

/-! ### Associativity -/

/-- Of two entries of one variable, the second one's value counts. -/
theorem mergeLocal_mergeLocal_of_eq (h : x.subject = y.subject) :
    mergeLocal (mergeLocal entries x) y = mergeLocal entries (x.followedBy y) := by
  induction entries with
  | nil => exact mergeLocal_cons_of_eq h
  | cons z rest ih =>
      by_cases hz : z.subject = x.subject
      · have hzy : (z.followedBy x).subject = y.subject := hz.trans h
        have hzx : z.subject = (x.followedBy y).subject := hz
        rw [mergeLocal_cons_of_eq hz, mergeLocal_cons_of_eq hzy, mergeLocal_cons_of_eq hzx]
        rfl
      · have hzx : z.subject ≠ (x.followedBy y).subject := hz
        rw [mergeLocal_cons_of_ne hz, mergeLocal_cons_of_ne fun e => hz (e.trans h.symm),
          mergeLocal_cons_of_ne hzx, ih]

/-- Entries of two variables can be merged in either order, if one of the variables has an entry
already. -/
theorem mergeLocal_comm (hne : x.subject ≠ y.subject) (h : y.subject ∈ subjects entries) :
    mergeLocal (mergeLocal entries x) y = mergeLocal (mergeLocal entries y) x := by
  induction entries with
  | nil => simp at h
  | cons z rest ih =>
      by_cases hzx : z.subject = x.subject
      · have hzy : z.subject ≠ y.subject := fun e => hne (hzx.symm.trans e)
        have hzy' : (z.followedBy x).subject ≠ y.subject := hzy
        rw [mergeLocal_cons_of_eq hzx, mergeLocal_cons_of_ne hzy', mergeLocal_cons_of_ne hzy,
          mergeLocal_cons_of_eq hzx]
      · rw [mergeLocal_cons_of_ne hzx]
        by_cases hzy : z.subject = y.subject
        · have hzx' : (z.followedBy y).subject ≠ x.subject := hzx
          rw [mergeLocal_cons_of_eq hzy, mergeLocal_cons_of_eq hzy, mergeLocal_cons_of_ne hzx']
        · have hrest : y.subject ∈ subjects rest :=
            (List.mem_cons.1 h).resolve_left fun e => hzy e.symm
          rw [mergeLocal_cons_of_ne hzy, mergeLocal_cons_of_ne hzy, mergeLocal_cons_of_ne hzx,
            ih hrest]

/-- An entry of a variable that has one already can be merged before entries of other variables. -/
theorem mergeLocal_mergeLocals (h : y.subject ∈ subjects first)
    (hsecond : y.subject ∉ subjects second) :
    mergeLocal (mergeLocals first second) y = mergeLocals (mergeLocal first y) second := by
  induction second generalizing first with
  | nil => rfl
  | cons z rest ih =>
      rw [subjects_cons, List.mem_cons, not_or] at hsecond
      obtain ⟨hyz, hrest⟩ := hsecond
      have hmem : y.subject ∈ subjects (mergeLocal first z) :=
        mem_subjects_mergeLocal.2 (.inl h)
      rw [mergeLocals_cons, mergeLocals_cons, ih hmem hrest, mergeLocal_comm (Ne.symm hyz) h]

/-- It makes no difference whether an entry is merged into the second change or into both. -/
theorem mergeLocals_mergeLocal (h : (subjects second).Nodup) :
    mergeLocals first (mergeLocal second y) = mergeLocal (mergeLocals first second) y := by
  induction second generalizing first with
  | nil => rfl
  | cons z rest ih =>
      obtain ⟨hz, hrest⟩ := List.nodup_cons.1 h
      by_cases hzy : z.subject = y.subject
      · have hy : y.subject ∉ subjects rest := hzy ▸ hz
        have hmem : y.subject ∈ subjects (mergeLocal first z) :=
          mem_subjects_mergeLocal.2 (.inr hzy.symm)
        rw [mergeLocal_cons_of_eq hzy, mergeLocals_cons, mergeLocals_cons,
          mergeLocal_mergeLocals hmem hy, mergeLocal_mergeLocal_of_eq hzy]
      · rw [mergeLocal_cons_of_ne hzy, mergeLocals_cons, mergeLocals_cons, ih hrest]

theorem mergeLocals_assoc (h : (subjects second).Nodup) :
    mergeLocals first (mergeLocals second third)
      = mergeLocals (mergeLocals first second) third := by
  induction third generalizing second with
  | nil => rfl
  | cons y rest ih =>
      rw [mergeLocals_cons, mergeLocals_cons, ih (nodup_subjects_mergeLocal h y),
        mergeLocals_mergeLocal h]

/-- Entries of new variables are appended. -/
theorem mergeLocals_of_nodup (h : (subjects (first ++ second)).Nodup) :
    mergeLocals first second = first ++ second := by
  induction second generalizing first with
  | nil => rw [mergeLocals_nil, List.append_nil]
  | cons y rest ih =>
      have hsplit : first ++ y :: rest = (first ++ [y]) ++ rest := by simp
      have hnew : y.subject ∉ subjects first := by
        rw [subjects_append, subjects_cons] at h
        exact fun hmem => (List.nodup_append.1 h).2.2 _ hmem _ List.mem_cons_self rfl
      rw [mergeLocals_cons, mergeLocal_of_notMem hnew, hsplit]
      exact ih (hsplit ▸ h)

/-! ### Whole changes -/

variable {a b c : Change}

theorem Keyed.merge (ha : a.Keyed) (b : Change) : (a.merge b).Keyed :=
  nodup_subjects_mergeLocals ha b.locals

theorem keyed_none : Keyed none := List.nodup_nil

@[simp] theorem merge_none (change : Change) : change.merge none = change := by
  simp [merge, none]

theorem Keyed.none_merge (h : a.Keyed) : none.merge a = a := by
  have hlocals : mergeLocals [] a.locals = a.locals := mergeLocals_of_nodup h
  rw [mergeLocals] at hlocals
  simp [Change.merge, none, hlocals]

/-- **Merging is associative**, if no variable has two entries in the change in the middle. -/
theorem merge_assoc (h : b.Keyed) : (a.merge b).merge c = a.merge (b.merge c) := by
  have hlocals : mergeLocals a.locals (mergeLocals b.locals c.locals)
      = mergeLocals (mergeLocals a.locals b.locals) c.locals := mergeLocals_assoc h
  simp only [mergeLocals] at hlocals
  simp only [merge, List.append_assoc, String.append_assoc, hlocals]

end Change

/-! ### Ways to merge a sequence of changes -/

/-- A way to merge a sequence of changes two by two. -/
inductive Merging where
  /-- There is nothing to merge. -/
  | nothing
  /-- A change is taken as it is. -/
  | single (change : Change)
  /-- What comes of one part is merged with what comes of a later part. -/
  | both (first second : Merging)

namespace Merging

/-- The changes that are merged, in order. -/
def changes : Merging → List Change
  | nothing => []
  | single change => [change]
  | both first second => first.changes ++ second.changes

/-- What comes of it. -/
def result : Merging → Change
  | nothing => .none
  | single change => change
  | both first second => first.result.merge second.result

theorem keyed_result {merging : Merging} (h : ∀ change ∈ merging.changes, change.Keyed) :
    merging.result.Keyed := by
  induction merging with
  | nothing => exact Change.keyed_none
  | single change => exact h change List.mem_cons_self
  | both first second ihfirst _ =>
      exact (ihfirst fun change hmem => h change (List.mem_append_left _ hmem)).merge _

/-- Merged into an earlier change, a sequence goes into it change by change. -/
theorem merge_result {merging : Merging} (h : ∀ change ∈ merging.changes, change.Keyed)
    (earlier : Change) :
    earlier.merge merging.result = merging.changes.foldl Change.merge earlier := by
  induction merging generalizing earlier with
  | nothing => exact Change.merge_none earlier
  | single change => rfl
  | both first second ihfirst ihsecond =>
      have hfirst : ∀ change ∈ first.changes, change.Keyed := fun change hmem =>
        h change (List.mem_append_left _ hmem)
      have hsecond : ∀ change ∈ second.changes, change.Keyed := fun change hmem =>
        h change (List.mem_append_right _ hmem)
      calc earlier.merge (first.result.merge second.result)
          = (earlier.merge first.result).merge second.result :=
            (Change.merge_assoc (keyed_result hfirst)).symm
        _ = second.changes.foldl Change.merge (first.changes.foldl Change.merge earlier) := by
            rw [ihfirst hfirst, ihsecond hsecond]
        _ = (first.changes ++ second.changes).foldl Change.merge earlier := by
            rw [List.foldl_append]

/-- **A sequence of changes can be merged in one way only**, as long as it keeps its order. -/
theorem result_eq_foldl {merging : Merging} (h : ∀ change ∈ merging.changes, change.Keyed) :
    merging.result = merging.changes.foldl Change.merge .none := by
  rw [← merge_result h, (keyed_result h).none_merge]

end Merging

end TracePlayer
