/-
**A log that is looked at in order is applied once.**

To show a step, a navigator is asked what its event changed and for the state after it, as often as
the step is drawn.  The change needs the states on both sides of the event; so a step that is drawn
again would cost a move backwards, if the change were not remembered.  As long as the steps do not
descend, no such move is made, and no event is applied a second time.

Main definitions:

* `Navigator.Look`, `Navigator.Visit`: what is asked of a step that is shown;
* `Navigator.Straight`: **the invariant**, as many events were applied as the state at hand counts;
* `Navigator.Shows`: a navigator that moved straight to a place and remembers its change.

Main results:

* `Navigator.Straight.moveTo`: a move forward keeps a navigator straight;
* `Navigator.Shows.changeAt`, `Navigator.Shows.stateAt`: the two questions of a visit;
* `Navigator.straight_after_visits`: **steps that do not descend are shown without a step back, and
  each event up to the last of them is applied once**.
-/
import Mathlib.Data.List.Chain
import TracePlayer.Proofs.Program.Growth
import TracePlayer.Proofs.Timeline.Moves

set_option autoImplicit false

namespace TracePlayer.Navigator

/-! ### Visits -/

/-- What is asked of a step that is drawn. -/
inductive Look where
  /-- The state after it. -/
  | state
  /-- What its event changed. -/
  | change

/-- The request that a look at a step makes. -/
def Look.request (step : Int) : Look → Request
  | state => .stateAt step
  | change => .changeAt step

/-- A step that is shown: what it changed is asked first, and then whatever is drawn of it. -/
structure Visit where
  step : Int
  looks : List Look

/-- The requests that a visit makes. -/
def Visit.requests (visit : Visit) : List Request :=
  .changeAt visit.step :: visit.looks.map (Look.request visit.step)

/-! ### Moves forward -/

/-- **As many events were applied as the state at hand counts**, and no step was made back. -/
structure Straight (nav : Navigator) : Prop where
  faithful : nav.Faithful
  folded : nav.stats.folded = nav.current.applied
  rewinds : nav.stats.rewinds = 0
  restores : nav.stats.restores = 0

variable {nav : Navigator} {log : Log} {place target : Nat} {step : Int}

theorem straight_ofLog (log : Log) (interval : Nat) : (ofLog log interval).Straight :=
  ⟨faithful_ofLog log interval, rfl, rfl, rfl⟩

/-- A move forward keeps a navigator straight. -/
theorem Straight.moveTo (h : nav.Straight) (hle : nav.current.applied ≤ target)
    (hto : target ≤ nav.log.length) :
    (nav.moveTo target).Straight ∧ (nav.moveTo target).current.applied = target := by
  obtain ⟨hfaithful, happlied⟩ := h.faithful.moveTo_applied hto
  obtain ⟨hfolded, hrewinds, hrestores⟩ := stats_moveTo_of_le hle hto
  refine ⟨⟨hfaithful, ?_, hrewinds.trans h.rewinds, hrestores.trans h.restores⟩, happlied⟩
  have hbefore := h.folded
  omega

/-! ### Steps that are shown -/

/-- A navigator of a log that moved straight to a place, and remembers the change of the event
before it. -/
structure Shows (nav : Navigator) (log : Log) (place : Nat) : Prop where
  log_eq : nav.log = log
  straight : nav.Straight
  applied : nav.current.applied = place
  lastChange : nav.lastChange.map Prod.fst = if place = 0 then none else some place

theorem shows_ofLog (log : Log) (interval : Nat) : (ofLog log interval).Shows log 0 :=
  ⟨rfl, straight_ofLog log interval, rfl, rfl⟩

namespace Shows

/-- **A step that is not before the place is shown without a step back**: either its change is the
one that is remembered, or the state before its event lies ahead. -/
theorem changeAt (h : nav.Shows log place)
    (hle : place ≤ State.eventsThrough log.length step) :
    (nav.changeAt step).2.Shows log (State.eventsThrough log.length step) := by
  obtain rfl := h.log_eq
  rcases nav.changeAt_cases step with ⟨hzero, hnone⟩ | ⟨index, change, hcount, hlast, hsame⟩ |
    ⟨index, event, hcount, hevent, hnew, hcompute⟩
  · obtain rfl : place = State.eventsThrough nav.log.length step := by omega
    rw [hnone]
    exact h
  · have hplace : place = index + 1 := by
      have hrecalled := h.lastChange
      rw [hlast] at hrecalled
      split at hrecalled
      · simp at hrecalled
      · simpa using hrecalled.symm
    rw [hsame, hcount, ← hplace]
    exact h
  · -- The change is not the one that is remembered, so the place lies before the event.
    have hbefore : nav.current.applied ≤ index := by
      have hne : place ≠ index + 1 := by
        rintro rfl
        have hrecalled := h.lastChange
        rw [if_neg (Nat.succ_ne_zero index)] at hrecalled
        obtain ⟨⟨_, change⟩, hlast, rfl⟩ := Option.map_eq_some_iff.1 hrecalled
        exact hnew change hlast
      have happlied := h.applied
      omega
    have hto : index + 1 ≤ nav.log.length := hcount ▸ State.eventsThrough_le _ step
    obtain ⟨hmiddle, hindex⟩ := h.straight.moveTo hbefore (Nat.le_of_succ_le hto)
    obtain ⟨hafter, hplace⟩ := hmiddle.moveTo (by omega) (le_length_moveTo hto index)
    have hfaithful : (nav.computeChange index event).2.Faithful :=
      h.straight.faithful.computeChange hevent
    rw [hcompute, hcount]
    exact ⟨by simp, ⟨hfaithful, hafter.folded, hafter.rewinds, hafter.restores⟩, hplace, rfl⟩

/-- The state of the step that is shown is at hand. -/
theorem stateAt (h : nav.Shows log (State.eventsThrough log.length step)) :
    (nav.stateAt step).2.Shows log (State.eventsThrough log.length step) := by
  obtain rfl := h.log_eq
  have hto := State.eventsThrough_le nav.log.length step
  obtain ⟨hstraight, happlied⟩ := h.straight.moveTo (Nat.le_of_eq h.applied) hto
  have hlast : (nav.stateAt step).2.lastChange = nav.lastChange := lastChange_moveTo nav _
  exact ⟨log_moveTo nav _, hstraight, happlied, hlast ▸ h.lastChange⟩

/-- However often a step is drawn, it stays shown. -/
theorem looks (h : nav.Shows log (State.eventsThrough log.length step)) (looks : List Look) :
    (nav.after (looks.map (Look.request step))).Shows log
      (State.eventsThrough log.length step) := by
  induction looks generalizing nav with
  | nil => exact h
  | cons look rest ih =>
      cases look with
      | state => exact ih h.stateAt
      | change => exact ih (h.changeAt (Nat.le_refl _))

theorem visit (h : nav.Shows log place) (visit : Visit)
    (hle : place ≤ State.eventsThrough log.length visit.step) :
    (nav.after visit.requests).Shows log (State.eventsThrough log.length visit.step) :=
  (h.changeAt hle).looks visit.looks

theorem visits (h : nav.Shows log place) (visits : List Visit)
    (hfirst : ∀ visit ∈ visits.head?, place ≤ State.eventsThrough log.length visit.step)
    (ascends : (visits.map Visit.step).IsChain (· ≤ ·)) :
    (nav.after (visits.flatMap Visit.requests)).Shows log
      ((visits.getLast?.map fun visit =>
        State.eventsThrough log.length visit.step).getD place) := by
  induction visits generalizing nav place with
  | nil => exact h
  | cons visit rest ih =>
      have hvisit := h.visit visit (hfirst visit rfl)
      have hnext : ∀ next ∈ rest.head?, State.eventsThrough log.length visit.step
          ≤ State.eventsThrough log.length next.step := by
        intro next hmem
        obtain ⟨others, rfl⟩ := List.head?_eq_some_iff.1 hmem
        have hstep := (List.isChain_cons_cons.1 ascends).1
        exact State.eventsThrough_mono log.length hstep
      have hlast : (rest.getLast?.map fun visit =>
          State.eventsThrough log.length visit.step).getD
            (State.eventsThrough log.length visit.step)
          = ((visit :: rest).getLast?.map fun visit =>
              State.eventsThrough log.length visit.step).getD place := by
        simp [List.getLast?_cons, Option.getD_map]
      rw [List.flatMap_cons, after_append, ← hlast]
      exact ih hvisit hnext ascends.tail

end Shows

/-- **Steps that do not descend are shown without a step back, and each event up to the last of them
is applied once**: there was no move backwards, and as many events were applied as the state at hand
is the fold over.  A part of such a run is such a run, so this holds all along. -/
theorem straight_after_visits (log : Log) (interval : Nat) (visits : List Visit)
    (ascends : (visits.map Visit.step).IsChain (· ≤ ·)) :
    let nav := (ofLog log interval).after (visits.flatMap Visit.requests)
    let place := (visits.getLast?.map fun visit =>
      State.eventsThrough log.length visit.step).getD 0
    nav.stats.rewinds = 0 ∧ nav.stats.restores = 0 ∧ nav.stats.folded = place ∧
      nav.current = State.ofPrefix log.events place := by
  intro nav place
  have hshows : nav.Shows log place :=
    (shows_ofLog log interval).visits visits (fun _ _ => Nat.zero_le _) ascends
  have hcurrent : nav.current = State.ofPrefix nav.log.events nav.current.applied :=
    hshows.straight.faithful.current
  rw [hshows.applied, hshows.log_eq] at hcurrent
  exact ⟨hshows.straight.rewinds, hshows.straight.restores,
    hshows.straight.folded.trans hshows.applied, hcurrent⟩

/-- Visits that begin before the log, draw a step several times, pass over steps and end behind the
log. -/
def drawn : List Visit :=
  [⟨-3, [.state]⟩, ⟨1, [.state, .change, .state]⟩, ⟨1, []⟩, ⟨4, [.change]⟩, ⟨9, [.state]⟩,
    ⟨12, [.change, .state]⟩]

theorem straight_after_visits_drawn :
    (drawn.map Visit.step).IsChain (· ≤ ·) ∧
      ((ofLog (.lines 7) 2).after (drawn.flatMap Visit.requests)).stats.folded = 7 ∧
        ((ofLog (.lines 7) 2).after (drawn.flatMap Visit.requests)).stats.rewinds = 0 := by
  have ascends : (drawn.map Visit.step).IsChain (· ≤ ·) := by decide
  obtain ⟨hrewinds, -, hfolded, -⟩ := straight_after_visits (.lines 7) 2 drawn ascends
  exact ⟨ascends, hfolded, hrewinds⟩

end TracePlayer.Navigator
