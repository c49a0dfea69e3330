/-
**What a move costs.**

A navigator counts the events that it applies, the moves backwards and the moves backwards that
began at a checkpoint.  A move forward applies the events that are missing and does nothing else; a
move backwards goes to the place that it begins again from, and forward from there.

Main definitions:

* `Log.lines`: a log of some lines, for runs on a fixed log;
* `Navigator.after`: a navigator after some requests.

Main results:

* `Navigator.stats_advance`: what the events that are missing cost;
* `Navigator.moveTo_of_lt`, `Navigator.stats_moveTo_of_le`: **what a move does**, back and forward;
* `Navigator.Faithful.applied_computeChange`: where the computation of a change ends.
-/
import TracePlayer.Proofs.Timeline.Answers

set_option autoImplicit false

namespace TracePlayer

/-- A log of some lines of one frame. -/
def Log.lines (count : Nat) : Log :=
  { Log.empty ⟨"lines"⟩ with
    events := (List.range count).map fun step => .plain (.ofNat step) .line 1 }

namespace Navigator

/-! ### Requests one after the other -/

/-- A navigator after some requests. -/
def after (nav : Navigator) (requests : List Request) : Navigator :=
  requests.foldl (fun nav request => (nav.respond request).2) nav

theorem after_append (nav : Navigator) (first second : List Request) :
    nav.after (first ++ second) = (nav.after first).after second := by
  simp [after, List.foldl_append]

variable {nav : Navigator} {target : Nat}

theorem Faithful.after (h : nav.Faithful) (requests : List Request) :
    (nav.after requests).Faithful := by
  induction requests generalizing nav with
  | nil => exact h
  | cons request rest ih =>
      obtain ⟨-, hnext, -⟩ := h.respond request
      exact ih hnext

/-! ### Moves -/

theorem stats_foldl_forward (nav : Navigator) (events : List Event) :
    (events.foldl forward nav).stats
      = { nav.stats with folded := nav.stats.folded + events.length } := by
  induction events generalizing nav with
  | nil => rfl
  | cons event rest ih =>
      rw [List.foldl_cons, ih]
      simp [forward, Nat.add_comm, Nat.add_left_comm]

/-- The events that are missing are each applied once. -/
theorem stats_advance (nav : Navigator) (hto : target ≤ nav.log.length) :
    (nav.advance target).stats
      = { nav.stats with folded := nav.stats.folded + (target - nav.current.applied) } := by
  have hlength : ((nav.log.events.take target).drop nav.current.applied).length
      = target - nav.current.applied := by
    unfold Log.length at hto
    rw [List.length_drop, List.length_take, Nat.min_eq_left hto]
  rw [advance, stats_foldl_forward, hlength]

theorem moveTo_of_lt (h : target < nav.current.applied) :
    nav.moveTo target = (nav.rewind target).advance target := by
  have hne : target ≠ nav.current.applied := by omega
  rw [moveTo, if_neg hne, if_pos h]

/-- **What a move forward costs**: one event for each place on the way, and no step back. -/
theorem stats_moveTo_of_le (hle : nav.current.applied ≤ target) (hto : target ≤ nav.log.length) :
    (nav.moveTo target).stats.folded = nav.stats.folded + (target - nav.current.applied) ∧
      (nav.moveTo target).stats.rewinds = nav.stats.rewinds ∧
        (nav.moveTo target).stats.restores = nav.stats.restores := by
  by_cases heq : target = nav.current.applied
  · simp [moveTo, heq]
  · have hnot : ¬ target < nav.current.applied := by omega
    rw [moveTo, if_neg heq, if_neg hnot, stats_advance nav hto]
    simp

/-! ### Changes -/

/-- The computation of a change ends behind its event. -/
theorem Faithful.applied_computeChange (h : nav.Faithful) {index : Nat}
    (hto : index + 1 ≤ nav.log.length) (event : Event) :
    (nav.computeChange index event).2.current.applied = index + 1 := by
  have hbefore := h.moveTo (Nat.le_of_succ_le hto)
  exact (hbefore.moveTo_applied (le_length_moveTo hto index)).2

end Navigator

end TracePlayer
