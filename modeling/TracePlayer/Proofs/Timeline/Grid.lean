/-
**Checkpoints stand on a grid.**

A navigator keeps the state of every place of its grid that it passes.  So the places at which a
state is kept are told by one number, the farthest place that it was at since it began or began
again, however often it went back in between.  What a move backwards costs follows: it begins at the
last place of the grid before the one asked for, and applies the rest.

The navigator itself does not remember how far it was; that number is told from its history.

Main definitions:

* `Navigator.peak`: the farthest place since a navigator began or began again;
* `Navigator.Spaced`: **the invariant**, the places of the grid up to the farthest place are those
  at which a state is kept;
* `Navigator.Regular`: the checkpoints of a navigator and the cost of its moves backwards.

Main results:

* `Checkpoints.mem_positions_record`, `Checkpoints.le_of_nearest?`: what is kept and what is found;
* `Navigator.Spaced.respond`: one request keeps the invariant;
* `Navigator.Spaced.nearest?_cases`: where a move backwards begins;
* `Navigator.regular_after`: **after any requests the checkpoints are the whole grid up to the
  farthest place**, and a move backwards costs what the grid leaves.
-/
import TracePlayer.Proofs.Timeline.Moves

set_option autoImplicit false

namespace TracePlayer

/-! ### What is kept and what is found -/

namespace Checkpoints

theorem onGrid_iff {interval applied : Nat} :
    onGrid interval applied = true ↔ 0 < applied ∧ interval ∣ applied := by
  simp only [onGrid, Bool.and_eq_true, bne_iff_ne, beq_iff_eq]
  constructor
  · rintro ⟨⟨-, happlied⟩, hmod⟩
    exact ⟨Nat.pos_of_ne_zero happlied, Nat.dvd_of_mod_eq_zero hmod⟩
  · rintro ⟨hpos, hdvd⟩
    have hinterval : 0 < interval := Nat.pos_of_dvd_of_pos hdvd hpos
    exact ⟨⟨by omega, by omega⟩, Nat.mod_eq_zero_of_dvd hdvd⟩

/-- A list that ascends still does after a state was put into it, if its place was free. -/
theorem ascending_insertState {state : State} {states : List State}
    (h : states.Pairwise fun a b => a.applied < b.applied)
    (hfree : ∀ other ∈ states, other.applied ≠ state.applied) :
    (insertState state states).Pairwise fun a b => a.applied < b.applied := by
  induction states with
  | nil => simp [insertState]
  | cons head rest ih =>
      obtain ⟨hhead, hrest⟩ := List.pairwise_cons.1 h
      unfold insertState
      split
      · next hlt =>
          refine List.pairwise_cons.2 ⟨?_, h⟩
          intro other hother
          rcases List.mem_cons.1 hother with rfl | hother
          · exact hlt
          · exact Nat.lt_trans hlt (hhead other hother)
      · next hnot =>
          have hne : head.applied ≠ state.applied := hfree head List.mem_cons_self
          refine List.pairwise_cons.2 ⟨?_, ih hrest fun other hother =>
            hfree other (List.mem_cons_of_mem _ hother)⟩
          intro other hother
          rcases mem_insertState_iff.1 hother with rfl | hother
          · omega
          · exact hhead other hother

variable {checkpoints : Checkpoints} {state other : State} {place target : Nat}

theorem accepts_eq_true_iff :
    checkpoints.accepts state = true ↔
      onGrid checkpoints.interval state.applied = true ∧
        state.applied ∉ checkpoints.positions := by
  simp [accepts]

theorem mem_positions_record :
    place ∈ (checkpoints.record state).positions ↔
      place ∈ checkpoints.positions ∨
        (place = state.applied ∧ onGrid checkpoints.interval state.applied = true) := by
  unfold record
  split
  · next haccepts =>
      obtain ⟨hgrid, -⟩ := accepts_eq_true_iff.1 haccepts
      simp only [positions, List.mem_map, mem_insertState_iff, hgrid, and_true]
      constructor
      · rintro ⟨kept, rfl | hmem, rfl⟩
        · exact .inr rfl
        · exact .inl ⟨kept, hmem, rfl⟩
      · rintro (⟨kept, hmem, rfl⟩ | rfl)
        · exact ⟨kept, .inr hmem, rfl⟩
        · exact ⟨state, .inl rfl, rfl⟩
  · next hnot =>
      rw [accepts_eq_true_iff] at hnot
      constructor
      · exact .inl
      · rintro (hmem | ⟨rfl, hgrid⟩)
        · exact hmem
        · by_cases hfree : state.applied ∈ checkpoints.positions
          · exact hfree
          · exact absurd ⟨hgrid, hfree⟩ hnot

theorem ascending_record (h : checkpoints.states.Pairwise fun a b => a.applied < b.applied)
    (state : State) :
    (checkpoints.record state).states.Pairwise fun a b => a.applied < b.applied := by
  unfold record
  split
  · next haccepts =>
      obtain ⟨-, hfree⟩ := accepts_eq_true_iff.1 haccepts
      refine ascending_insertState h ?_
      intro other hother heq
      exact hfree (List.mem_map.2 ⟨other, hother, heq⟩)
  · exact h

theorem nearest?_eq_none_iff :
    checkpoints.nearest? target = none ↔ ∀ state ∈ checkpoints.states, target < state.applied := by
  simp [nearest?]

/-- No state that is kept lies between the one that is found and the place asked for. -/
theorem le_of_nearest? (h : checkpoints.states.Pairwise fun a b => a.applied < b.applied)
    (hnearest : checkpoints.nearest? target = some state) (hother : other ∈ checkpoints.states)
    (hle : other.applied ≤ target) : other.applied ≤ state.applied := by
  obtain ⟨earlier, hsplit⟩ := List.getLast?_eq_some_iff.1 hnearest
  have hascends := h.filter fun state => decide (state.applied ≤ target)
  have hmem : other ∈ earlier ++ [state] := by
    rw [← hsplit]
    exact List.mem_filter.2 ⟨hother, decide_eq_true hle⟩
  rw [hsplit, List.pairwise_append] at hascends
  rcases List.mem_append.1 hmem with hmem | hmem
  · exact Nat.le_of_lt (hascends.2.2 other hmem state List.mem_cons_self)
  · obtain rfl : other = state := List.mem_singleton.1 hmem
    exact Nat.le_refl _

end Checkpoints

namespace Navigator

/-! ### How far a navigator was -/

/-- Whether a navigator begins again. -/
def Request.beginsAgain : Request → Bool
  | .reconfigure _ | .load _ => true
  | .stateAt _ | .stateAt? _ | .changeAt _ => false

/-- The largest number of events that were applied at any time since the navigator began, or began
again, if it was `high` before the requests; no request goes farther than it ends. -/
def peak : Navigator → List Request → Nat → Nat
  | _, [], high => high
  | nav, request :: rest, high =>
      let next := (nav.respond request).2
      next.peak rest (if request.beginsAgain then 0 else max high next.current.applied)

/-! ### The invariant -/

/-- **The places of the grid up to the farthest place are those at which a state is kept.** -/
structure Spaced (nav : Navigator) (peak : Nat) : Prop where
  applied_le : nav.current.applied ≤ peak
  ascending : nav.checkpoints.states.Pairwise fun a b => a.applied < b.applied
  mem_positions : ∀ place, place ∈ nav.checkpoints.positions ↔
    0 < place ∧ nav.interval ∣ place ∧ place ≤ peak

theorem spaced_ofLog (log : Log) (interval : Nat) : (ofLog log interval).Spaced 0 where
  applied_le := Nat.le_refl 0
  ascending := .nil
  mem_positions place := by
    have hempty : (ofLog log interval).checkpoints.positions = [] := rfl
    simp only [hempty, List.not_mem_nil, false_iff]
    omega

variable {nav : Navigator} {peak target : Nat}

namespace Spaced

theorem le_peak (h : nav.Spaced peak) {state : State} (hstate : state ∈ nav.checkpoints.states) :
    0 < state.applied ∧ nav.interval ∣ state.applied ∧ state.applied ≤ peak :=
  (h.mem_positions state.applied).1 (List.mem_map_of_mem hstate)

/-- Where it already was, a navigator has nothing to keep. -/
theorem stay (h : nav.Spaced peak) : nav.Spaced (max peak nav.current.applied) := by
  rwa [Nat.max_eq_left h.applied_le]

/-- Only an event beyond the farthest place so far can lead to a new place of the grid. -/
theorem forward (h : nav.Spaced peak) (event : Event) :
    (nav.forward event).Spaced (max peak (nav.current.applied + 1)) where
  applied_le := Nat.le_max_right _ _
  ascending := Checkpoints.ascending_record h.ascending _
  mem_positions place := by
    have hle := h.applied_le
    have hrecord : place ∈ (nav.forward event).checkpoints.positions ↔
        place ∈ nav.checkpoints.positions ∨ (place = nav.current.applied + 1 ∧
          Checkpoints.onGrid nav.interval (nav.current.applied + 1) = true) :=
      Checkpoints.mem_positions_record
    rw [hrecord, h.mem_positions, Checkpoints.onGrid_iff, interval_forward]
    -- Up to the farthest place so far the grid is complete, also where the event was applied again.
    constructor
    · rintro (⟨hpos, hdvd, hplace⟩ | ⟨rfl, hpos, hdvd⟩)
      · exact ⟨hpos, hdvd, by omega⟩
      · exact ⟨hpos, hdvd, by omega⟩
    · rintro ⟨hpos, hdvd, hplace⟩
      by_cases hfar : place ≤ peak
      · exact .inl ⟨hpos, hdvd, hfar⟩
      · obtain rfl : place = nav.current.applied + 1 := by omega
        exact .inr ⟨rfl, hpos, hdvd⟩

theorem foldl_forward (h : nav.Spaced peak) (events : List Event) :
    (events.foldl Navigator.forward nav).Spaced
      (max peak (nav.current.applied + events.length)) := by
  induction events generalizing nav peak with
  | nil => exact h.stay
  | cons event rest ih =>
      have hmax : max (max peak (nav.current.applied + 1))
          (nav.current.applied + 1 + rest.length)
            = max peak (nav.current.applied + (rest.length + 1)) := by omega
      exact hmax ▸ ih (h.forward event)

theorem advance (h : nav.Spaced peak) (hfrom : nav.current.applied ≤ target)
    (hto : target ≤ nav.log.length) : (nav.advance target).Spaced (max peak target) := by
  have hlast : nav.current.applied
      + ((nav.log.events.take target).drop nav.current.applied).length = target := by
    unfold Log.length at hto
    rw [List.length_drop, List.length_take]
    omega
  have hspaced := h.foldl_forward ((nav.log.events.take target).drop nav.current.applied)
  rwa [hlast] at hspaced

/-- A move backwards keeps the checkpoints, and stays below the farthest place. -/
theorem rewind (h : nav.Spaced peak) (target : Nat) : (nav.rewind target).Spaced peak := by
  unfold Navigator.rewind
  split
  · next state hstate =>
      have hmem := (Checkpoints.nearest?_eq_some hstate).1
      exact { h with applied_le := (h.le_peak hmem).2.2 }
  · exact { h with applied_le := Nat.zero_le _ }

theorem moveTo (h : nav.Spaced peak) (hto : target ≤ nav.log.length) :
    (nav.moveTo target).Spaced (max peak target) := by
  unfold Navigator.moveTo
  split
  · next heq =>
      rw [heq]
      exact { h.stay with }
  · split
    · refine (h.rewind target).advance (applied_rewind_le nav target) ?_
      rwa [log_rewind]
    · exact h.advance (by omega) hto

/-- A change is computed by two moves, of which the second one goes farther. -/
theorem computeChange (h : nav.Spaced peak) {index : Nat} (hto : index + 1 ≤ nav.log.length)
    (event : Event) : (nav.computeChange index event).2.Spaced (max peak (index + 1)) := by
  have hbefore := h.moveTo (Nat.le_of_succ_le hto)
  have hafter := hbefore.moveTo (le_length_moveTo hto index)
  have hmax : max (max peak index) (index + 1) = max peak (index + 1) := by omega
  rw [hmax] at hafter
  exact { hafter with }

theorem stateAt (h : nav.Spaced peak) (faithful : nav.Faithful) (step : Int) :
    (nav.stateAt step).2.Spaced (max peak (nav.stateAt step).2.current.applied) := by
  have hle := State.eventsThrough_le nav.log.length step
  have happlied : (nav.stateAt step).2.current.applied
      = State.eventsThrough nav.log.length step := (faithful.moveTo_applied hle).2
  rw [happlied]
  exact h.moveTo hle

theorem changeAt (h : nav.Spaced peak) (faithful : nav.Faithful) (step : Int) :
    (nav.changeAt step).2.Spaced (max peak (nav.changeAt step).2.current.applied) := by
  rcases nav.changeAt_cases step with ⟨-, hnone⟩ | ⟨_, change, -, -, hsame⟩ |
    ⟨index, event, hcount, -, -, hcompute⟩
  · rw [hnone]
    exact h.stay
  · rw [hsame]
    exact h.stay
  · have hto : index + 1 ≤ nav.log.length := hcount ▸ State.eventsThrough_le _ step
    rw [hcompute, faithful.applied_computeChange hto]
    exact h.computeChange hto event

/-- **One request keeps the invariant.** -/
theorem respond (h : nav.Spaced peak) (faithful : nav.Faithful) (request : Request) :
    (nav.respond request).2.Spaced
      (if request.beginsAgain then 0 else max peak (nav.respond request).2.current.applied) := by
  cases request with
  | stateAt step => exact h.stateAt faithful step
  | stateAt? step =>
      cases step with
      | none => exact h.stay
      | some step => exact h.stateAt faithful step
  | changeAt step => exact h.changeAt faithful step
  | reconfigure interval => exact { spaced_ofLog nav.log interval with }
  | load log => exact spaced_ofLog log nav.interval

theorem after (h : nav.Spaced peak) (faithful : nav.Faithful) (requests : List Request) :
    (nav.after requests).Spaced (nav.peak requests peak) := by
  induction requests generalizing nav peak with
  | nil => exact h
  | cons request rest ih =>
      obtain ⟨-, hnext, -⟩ := faithful.respond request
      exact ih (h.respond faithful request) hnext

/-! ### Moves backwards -/

/-- **Where a move backwards begins**: at the last place of the grid, if there is one. -/
theorem nearest?_cases (h : nav.Spaced peak) (hle : target ≤ peak) :
    (0 < nav.interval ∧ nav.interval ≤ target ∧ ∃ state,
        nav.checkpoints.nearest? target = some state ∧
          state.applied = target - target % nav.interval) ∨
      (¬ (0 < nav.interval ∧ nav.interval ≤ target) ∧
        nav.checkpoints.nearest? target = none) := by
  by_cases hgrid : 0 < nav.interval ∧ nav.interval ≤ target
  · obtain ⟨hpos, hfirst⟩ := hgrid
    refine .inl ⟨hpos, hfirst, ?_⟩
    have hdivides : nav.interval * (target / nav.interval) + target % nav.interval = target :=
      Nat.div_add_mod target nav.interval
    have hmod : target % nav.interval < nav.interval := Nat.mod_lt _ hpos
    -- The last place of the grid was passed on the way to the farthest place.
    have hlast : target - target % nav.interval ∈ nav.checkpoints.positions := by
      refine (h.mem_positions _).2 ⟨by omega, ?_, by omega⟩
      exact Nat.dvd_sub_mod target
    obtain ⟨kept, hkept, happlied⟩ := List.mem_map.1 hlast
    cases hnearest : nav.checkpoints.nearest? target with
    | none =>
        have hlt := Checkpoints.nearest?_eq_none_iff.1 hnearest kept hkept
        omega
    | some state =>
        obtain ⟨hstate, hbefore⟩ := Checkpoints.nearest?_eq_some hnearest
        have hafter := Checkpoints.le_of_nearest? h.ascending hnearest hkept (by omega)
        -- Two places of the grid that lie as close as this are the same place.
        obtain ⟨-, ⟨count, hcount⟩, -⟩ := h.le_peak hstate
        have hcount_le : count ≤ target / nav.interval := by
          refine (Nat.le_div_iff_mul_le hpos).2 ?_
          rw [Nat.mul_comm]
          omega
        have hmul : nav.interval * count ≤ nav.interval * (target / nav.interval) :=
          Nat.mul_le_mul_left _ hcount_le
        exact ⟨state, rfl, by omega⟩
  · refine .inr ⟨hgrid, Checkpoints.nearest?_eq_none_iff.2 ?_⟩
    intro state hstate
    obtain ⟨hpos, hdvd, -⟩ := h.le_peak hstate
    have hinterval : 0 < nav.interval := Nat.pos_of_dvd_of_pos hdvd hpos
    have hfirst : nav.interval ≤ state.applied := Nat.le_of_dvd hpos hdvd
    have hnot : ¬ nav.interval ≤ target := fun hle => hgrid ⟨hinterval, hle⟩
    omega

/-- A move backwards begins at the last place of the grid, or at the beginning. -/
theorem rewind_eq (h : nav.Spaced peak) (hle : target ≤ peak) :
    (nav.rewind target).current.applied = target - target % nav.interval ∧
      (nav.rewind target).stats
        = { nav.stats with
            rewinds := nav.stats.rewinds + 1
            restores := nav.stats.restores +
              if 0 < nav.interval ∧ nav.interval ≤ target then 1 else 0 } := by
  rcases h.nearest?_cases hle with ⟨hpos, hfirst, state, hnearest, happlied⟩ | ⟨hnot, hnearest⟩
  · simp [Navigator.rewind, hnearest, happlied, hpos, hfirst]
  · simp only [Navigator.rewind, hnearest, if_neg hnot, Nat.add_zero, and_true]
    have hmod : target % nav.interval = target := by
      cases hinterval : nav.interval with
      | zero => exact Nat.mod_zero target
      | succ k => exact Nat.mod_eq_of_lt (by omega)
    rw [hmod, Nat.sub_self]
    rfl

/-- **What a move backwards costs**; without a grid, where the distance is `0`, the remainder is the
whole way from the beginning. -/
theorem stats_moveTo_of_lt (h : nav.Spaced peak) (hlt : target < nav.current.applied)
    (hto : target ≤ nav.log.length) :
    (nav.moveTo target).stats
      = { nav.stats with
          folded := nav.stats.folded + target % nav.interval
          rewinds := nav.stats.rewinds + 1
          restores := nav.stats.restores +
            if 0 < nav.interval ∧ nav.interval ≤ target then 1 else 0 } := by
  have hle : target ≤ peak := by
    have happlied := h.applied_le
    omega
  obtain ⟨happlied, hstats⟩ := h.rewind_eq hle
  have hfolded : target - (target - target % nav.interval) = target % nav.interval := by
    have hmod := Nat.mod_le target nav.interval
    omega
  rw [moveTo_of_lt hlt, stats_advance _ (by rwa [log_rewind]), happlied, hstats, hfolded]

end Spaced

/-! ### The checkpoints after any requests -/

/-- **The checkpoints of a navigator and the cost of its moves backwards**, told from its farthest
place. -/
structure Regular (nav : Navigator) (peak : Nat) : Prop where
  /-- A state is kept at each multiple of the distance up to the farthest place, in ascending order;
  with the distance `0` there is none, since nothing above zero is a multiple of it. -/
  mem_positions : ∀ place, place ∈ nav.checkpoints.positions ↔
    0 < place ∧ nav.interval ∣ place ∧ place ≤ peak
  ascending : nav.checkpoints.positions.Pairwise (· < ·)
  /-- Each of them is the fold over as many events, from nothing. -/
  states : nav.checkpoints.states
    = nav.checkpoints.positions.map (State.ofPrefix nav.log.events)
  /-- A move backwards applies the events since the last place of the grid, counts as one move
  backwards, and as one from a checkpoint if there is such a place. -/
  back : ∀ step target, State.eventsThrough nav.log.length step = target →
    target < nav.current.applied →
      (nav.stateAt step).2.stats =
        { nav.stats with
          folded := nav.stats.folded +
            if nav.interval = 0 then target else target % nav.interval
          rewinds := nav.stats.rewinds + 1
          restores := nav.stats.restores +
            if 0 < nav.interval ∧ nav.interval ≤ target then 1 else 0 }

/-- **After any requests the checkpoints are the whole grid up to the farthest place** since the
navigator began or began again, and a move backwards costs what the grid leaves. -/
theorem regular_after (log : Log) (interval : Nat) (requests : List Request) :
    ((ofLog log interval).after requests).Regular ((ofLog log interval).peak requests 0) := by
  have hfaithful := (faithful_ofLog log interval).after requests
  have hspaced := (spaced_ofLog log interval).after (faithful_ofLog log interval) requests
  constructor
  · exact hspaced.mem_positions
  · exact List.pairwise_map.2 hspaced.ascending
  · rw [Checkpoints.positions, List.map_map]
    refine (List.map_id _).symm.trans (List.map_congr_left ?_)
    intro state hstate
    exact hfaithful.checkpoints state hstate
  · rintro step target rfl hlt
    have hrest : ∀ count target : Nat,
        (if count = 0 then target else target % count) = target % count := by
      intro count target
      split
      · next hzero => rw [hzero, Nat.mod_zero]
      · rfl
    rw [hrest]
    exact hspaced.stats_moveTo_of_lt hlt (State.eventsThrough_le _ _)

/-- Requests that go to the end, begin again with a checkpoint after every second event, and go to
the sixth event by way of the second. -/
def backAndForth : List Request :=
  [.stateAt 9, .reconfigure 2, .stateAt 1, .changeAt 5]

/-- Going back from there to the fifth event applies one event, and begins at a checkpoint. -/
theorem regular_after_backAndForth :
    let nav := (ofLog (.lines 7) 3).after backAndForth
    nav.Regular 6 ∧ nav.checkpoints.positions = [2, 4, 6] ∧
      State.eventsThrough nav.log.length 4 = 5 ∧ 5 < nav.current.applied ∧
        nav.stats = ⟨0, 13, 0, 0⟩ ∧ (nav.stateAt 4).2.stats = ⟨0, 14, 1, 1⟩ := by
  intro nav
  have hpeak : (ofLog (.lines 7) 3).peak backAndForth 0 = 6 := by decide +kernel
  have hregular : nav.Regular 6 := hpeak ▸ regular_after (.lines 7) 3 backAndForth
  have htarget : State.eventsThrough nav.log.length 4 = 5 := by decide +kernel
  have hback : 5 < nav.current.applied := by decide +kernel
  have hstats : nav.stats = ⟨0, 13, 0, 0⟩ := by decide +kernel
  refine ⟨hregular, by decide +kernel, htarget, hback, hstats, ?_⟩
  rw [hregular.back 4 5 htarget hback, hstats]
  decide +kernel

end Navigator

end TracePlayer
