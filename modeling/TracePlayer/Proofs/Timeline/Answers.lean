/-
**What a navigator remembers never shows.**

A navigator is asked for states and for changes, it is given other grids and other logs, in any
order.  Beside it stands the log itself, which remembers nothing and folds from the beginning
whenever it is asked.  Both give the same answers.

Main definitions:

* `Navigator.Request`, `Navigator.Answer`: what a navigator can be asked or told, and what comes
  back;
* `Navigator.respond`, `Navigator.answers`: the answers of a navigator;
* `Log.changeAt`: the full comparison of the states around a step;
* `Log.respond`, `Log.answers`: the answers that the log itself gives.

Main results:

* `Navigator.changeAt_cases`: **everything that a question for a change can do**;
* `Navigator.Faithful.respond`: one request keeps the invariant, and its answer is that of the log;
* `Navigator.answers_ofLog`: **every answer is that of the log**.
-/
import TracePlayer.Proofs.Timeline.Navigator

set_option autoImplicit false

namespace TracePlayer

/-! ### Requests -/

/-- What a navigator can be asked or told. -/
inductive Navigator.Request where
  /-- Asks for the state after a step. -/
  | stateAt (step : Int)
  /-- Asks for the state after an optional step. -/
  | stateAt? (step : Option Int)
  /-- Asks what the event of a step changed. -/
  | changeAt (step : Int)
  /-- Gives another distance between checkpoints. -/
  | reconfigure (interval : Nat)
  /-- Gives another log. -/
  | load (log : Log)

/-- What comes back. -/
inductive Navigator.Answer where
  /-- A state. -/
  | state (state : State)
  /-- A change. -/
  | change (change : Change)
  /-- Nothing. -/
  | done

namespace Navigator

/-- The answer to one request, and the navigator afterwards. -/
def respond (nav : Navigator) : Request → Answer × Navigator
  | .stateAt step => let (state, next) := nav.stateAt step; (.state state, next)
  | .stateAt? step => let (state, next) := nav.stateAt? step; (.state state, next)
  | .changeAt step => let (change, next) := nav.changeAt step; (.change change, next)
  | .reconfigure interval => (.done, nav.reconfigure interval)
  | .load log => (.done, nav.load log)

/-- The answers to some requests, one after the other. -/
def answers : Navigator → List Request → List Answer
  | _, [] => []
  | nav, request :: rest => (nav.respond request).1 :: answers (nav.respond request).2 rest

end Navigator

namespace Log

/-- The change made by the event of a step, by a full comparison of the states around it: a step
past the end counts as the last one, before the first one nothing changes. -/
def changeAt (log : Log) (step : Int) : Change :=
  if step < 0 ∨ log.length = 0 then .none
  else
    let index := min step (log.length - 1)
    Change.between (State.atStep log.events (index - 1)) (State.atStep log.events index)

/-- The answer of a log to one request, and the log that is loaded afterwards. -/
def respond (log : Log) : Navigator.Request → Navigator.Answer × Log
  | .stateAt step => (.state (State.atStep log.events step), log)
  | .stateAt? step => (.state (State.atStep? log.events step), log)
  | .changeAt step => (.change (log.changeAt step), log)
  | .reconfigure _ => (.done, log)
  | .load next => (.done, next)

/-- The answers of a log to some requests, one after the other. -/
def answers : Log → List Navigator.Request → List Navigator.Answer
  | _, [] => []
  | log, request :: rest => (log.respond request).1 :: answers (log.respond request).2 rest

end Log

/-! ### Steps and numbers of events -/

namespace State

theorem eventsThrough_le (length : Nat) (step : Int) : eventsThrough length step ≤ length := by
  unfold eventsThrough
  split
  · exact Nat.zero_le _
  · exact Nat.min_le_right _ _

/-- The state after the step before a place is the fold over the events before that place. -/
theorem atStep_sub_one {events : List Event} {count : Nat} (h : count ≤ events.length) :
    atStep events ((count : Int) - 1) = ofPrefix events count := by
  have hcount : eventsThrough events.length ((count : Int) - 1) = count := by
    unfold eventsThrough
    split
    · omega
    · have hsucc : ((count : Int) - 1).toNat + 1 = count := by omega
      rw [hsucc]
      exact Nat.min_eq_left h
  rw [atStep, hcount]

end State

namespace Log

theorem changeAt_of_eventsThrough_eq_zero {log : Log} {step : Int}
    (h : State.eventsThrough log.length step = 0) : log.changeAt step = .none := by
  unfold State.eventsThrough at h
  unfold changeAt
  split at h
  · next hneg => rw [if_pos (.inl hneg)]
  · have hzero : log.length = 0 := by
      rcases Nat.min_eq_zero_iff.1 h with h | h
      · omega
      · exact h
    rw [if_pos (.inr hzero)]

theorem changeAt_of_eventsThrough_eq_succ {log : Log} {step : Int} {index : Nat}
    (h : State.eventsThrough log.length step = index + 1) :
    log.changeAt step = log.changeBefore (index + 1) := by
  have hle : index + 1 ≤ log.events.length := h ▸ State.eventsThrough_le log.length step
  unfold State.eventsThrough at h
  split at h
  · simp at h
  · next hstep =>
      have hmin : min (step.toNat + 1) log.length = index + 1 := h
      have hindex : min step ((log.length : Int) - 1) = ((index + 1 : Nat) : Int) - 1 := by omega
      have hbefore : ((index + 1 : Nat) : Int) - 1 - 1 = (index : Int) - 1 := by omega
      rw [changeAt, if_neg (by omega)]
      simp only [hindex, hbefore]
      rw [State.atStep_sub_one hle, State.atStep_sub_one (Nat.le_of_succ_le hle)]
      rfl

end Log

/-! ### Both give the same answers -/

namespace Navigator

/-- **Everything that a question for a change can do**: before the first event there is none, the
last change is remembered, and any other one is computed. -/
theorem changeAt_cases (nav : Navigator) (step : Int) :
    (State.eventsThrough nav.log.length step = 0 ∧ nav.changeAt step = (.none, nav)) ∨
      (∃ index change, State.eventsThrough nav.log.length step = index + 1 ∧
        nav.lastChange = some (index + 1, change) ∧ nav.changeAt step = (change, nav)) ∨
      ∃ index event, State.eventsThrough nav.log.length step = index + 1 ∧
        nav.log.event? index = some event ∧
        (∀ change, nav.lastChange ≠ some (index + 1, change)) ∧
        nav.changeAt step = nav.computeChange index event := by
  unfold changeAt
  cases hcount : State.eventsThrough nav.log.length step with
  | zero => exact .inl ⟨rfl, rfl⟩
  | succ index =>
      have hlt : index < nav.log.length := by
        have hle := State.eventsThrough_le nav.log.length step
        omega
      obtain ⟨event, hevent⟩ : ∃ event, nav.log.event? index = some event :=
        ⟨_, List.getElem?_eq_getElem hlt⟩
      simp only [hevent]
      cases hlast : nav.lastChange with
      | none => exact .inr (.inr ⟨index, event, rfl, hevent, by simp, rfl⟩)
      | some entry =>
          obtain ⟨place, change⟩ := entry
          by_cases hplace : place = index + 1
          · subst hplace
            exact .inr (.inl ⟨index, change, rfl, rfl, if_pos rfl⟩)
          · refine .inr (.inr ⟨index, event, rfl, hevent, ?_, if_neg hplace⟩)
            intro other hother
            exact hplace (Prod.mk.inj (Option.some.inj hother)).1

@[simp] theorem interval_changeAt (nav : Navigator) (step : Int) :
    (nav.changeAt step).2.interval = nav.interval := by
  rcases nav.changeAt_cases step with ⟨-, hnone⟩ | ⟨_, _, -, -, hsame⟩ | ⟨_, _, -, -, -, hcompute⟩
  · rw [hnone]
  · rw [hsame]
  · rw [hcompute, interval_computeChange]

variable {nav : Navigator}

theorem Faithful.stateAt (h : nav.Faithful) (step : Int) :
    (nav.stateAt step).1 = State.atStep nav.log.events step ∧ (nav.stateAt step).2.Faithful ∧
      (nav.stateAt step).2.log = nav.log := by
  have hle := State.eventsThrough_le nav.log.length step
  exact ⟨h.current_moveTo hle, h.moveTo hle, log_moveTo nav _⟩

theorem Faithful.changeAt (h : nav.Faithful) (step : Int) :
    (nav.changeAt step).1 = nav.log.changeAt step ∧ (nav.changeAt step).2.Faithful ∧
      (nav.changeAt step).2.log = nav.log := by
  rcases nav.changeAt_cases step with ⟨hzero, hnone⟩ | ⟨index, change, hcount, hlast, hsame⟩ |
    ⟨index, event, hcount, hevent, -, hcompute⟩
  · rw [hnone]
    exact ⟨(Log.changeAt_of_eventsThrough_eq_zero hzero).symm, h, rfl⟩
  · -- The change that is remembered was made by the very event that is asked for.
    rw [hsame, Log.changeAt_of_eventsThrough_eq_succ hcount]
    exact ⟨h.lastChange _ change hlast, h, rfl⟩
  · rw [hcompute, Log.changeAt_of_eventsThrough_eq_succ hcount]
    exact ⟨h.fst_computeChange hevent, h.computeChange hevent, log_computeChange nav _ _⟩

/-- One request keeps the invariant, and its answer is that of the log. -/
theorem Faithful.respond (h : nav.Faithful) (request : Request) :
    (nav.respond request).1 = (nav.log.respond request).1 ∧ (nav.respond request).2.Faithful ∧
      (nav.respond request).2.log = (nav.log.respond request).2 := by
  cases request with
  | stateAt step =>
      obtain ⟨hanswer, hnext⟩ := h.stateAt step
      exact ⟨congrArg Answer.state hanswer, hnext⟩
  | stateAt? step =>
      cases step with
      | none => exact ⟨rfl, h, rfl⟩
      | some step =>
          obtain ⟨hanswer, hnext⟩ := h.stateAt step
          exact ⟨congrArg Answer.state hanswer, hnext⟩
  | changeAt step =>
      obtain ⟨hanswer, hnext⟩ := h.changeAt step
      exact ⟨congrArg Answer.change hanswer, hnext⟩
  | reconfigure interval => exact ⟨rfl, faithful_reconfigure nav interval, rfl⟩
  | load log => exact ⟨rfl, faithful_ofLog log nav.interval, rfl⟩

theorem Faithful.answers (h : nav.Faithful) (requests : List Request) :
    nav.answers requests = nav.log.answers requests := by
  induction requests generalizing nav with
  | nil => rfl
  | cons request rest ih =>
      obtain ⟨hanswer, hnext, hlog⟩ := h.respond request
      simp only [Navigator.answers, Log.answers, hanswer, ih hnext, hlog]

/-- **Every answer is that of the log**: whatever a navigator was asked and told before, and
whatever the distance between its checkpoints, a state is the fold from nothing over the log that is
loaded, and a change is the full comparison of two such states. -/
theorem answers_ofLog (log : Log) (interval : Nat) (requests : List Request) :
    (ofLog log interval).answers requests = log.answers requests :=
  (faithful_ofLog log interval).answers requests

end Navigator

end TracePlayer
