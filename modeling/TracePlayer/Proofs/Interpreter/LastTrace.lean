/-
**Which trace a session remembers.**

A run that has succeeded no longer counts as under way before its trace is stored, so another run
may begin, succeed and store its trace in between; then the older trace comes last and stays.  As
long as every trace is stored before the next run succeeds, the session remembers the trace of the
run that succeeded last.

Main definitions:

* `Session.success?`, `Session.successes`: the runs that succeed while some events happen;
* `Session.OneByOne`: no run succeeds while another trace is on its way, and no trace is given up;
* `Session.Current`: **the invariant**, the trace of the last success is on its way or stored.

Main results:

* `Session.Happens.lastTrace_eq_or`: only a client whose run has succeeded changes what is
  remembered;
* `Session.Current.step`, `Session.Current.after`: the invariant is kept;
* `Session.lastTrace_after`: **once nothing is on its way, the trace of the last success is
  remembered**;
* `Session.lastTrace_overtaken`: a trace that is stored late hides the one of a later run.
-/
import TracePlayer.Proofs.Interpreter.SingleFlight

set_option autoImplicit false

namespace TracePlayer.Session

variable {Interpreter : Type} {backend : Backend Interpreter} {session next : Session Interpreter}
  {event : Event Interpreter} {answer : Option Answer} {client : Client} {phase : Phase}

/-! ### Successes -/

/-- The trace that is on its way: its run has succeeded, and it has not been stored. -/
def Phase.trace? : Phase → Option Payload
  | returning (.ok payload) | storing payload => some payload
  | _ => none

/-- Whether a trace is on its way. -/
def Phase.carries (phase : Phase) : Bool := phase.trace?.isSome

/-- The trace of the run that succeeds at an event, if one does. -/
def success? (backend : Backend Interpreter) (session : Session Interpreter) :
    Event Interpreter → Option Payload
  | .leave client =>
      match session.phase client with
      | .inside (.run request) => (backend.run request session.interpreter).1.toOption
      | _ => none
  | _ => none

/-- The traces of the runs that succeed while some events happen, the earliest one first. -/
def successes (backend : Backend Interpreter) (session : Session Interpreter) :
    List (Event Interpreter) → List Payload
  | [] => []
  | event :: rest =>
      (session.success? backend event).toList ++
        successes backend (session.step backend event).2 rest

/-- An event at which no run succeeds while another trace is on its way, and no trace is given
up. -/
structure Orderly (backend : Backend Interpreter) (session : Session Interpreter)
    (event : Event Interpreter) : Prop where
  success : session.success? backend event ≠ none →
    ∀ other, (session.phase other).carries = false
  abandon : ∀ client interpreter, event = .abandon client interpreter →
    (session.phase client).carries = false

/-- Every trace is stored before the next run succeeds. -/
def OneByOne (backend : Backend Interpreter) (session : Session Interpreter) :
    List (Event Interpreter) → Prop
  | [] => True
  | event :: rest =>
      session.Orderly backend event ∧ OneByOne backend (session.step backend event).2 rest

theorem success?_eq_some_iff {payload : Payload} :
    session.success? backend event = some payload ↔
      ∃ client request, event = .leave client ∧ session.phase client = .inside (.run request) ∧
        (backend.run request session.interpreter).1 = .ok payload := by
  constructor
  · intro h
    unfold success? at h
    split at h
    · next client =>
        split at h
        · next request hinside =>
            cases hresult : (backend.run request session.interpreter).1 with
            | error error => rw [hresult] at h; cases h
            | ok found =>
                rw [hresult] at h
                cases h
                exact ⟨client, request, rfl, hinside, hresult⟩
        · cases h
    · cases h
  · rintro ⟨client, request, rfl, hinside, hresult⟩
    simp only [success?, hinside, hresult, Except.toOption]

/-! ### What changes the trace -/

/-- Only a client whose run has succeeded changes what is remembered, and only to the trace of this
run. -/
theorem Happens.lastTrace_eq_or (h : session.Happens backend event answer next) :
    next.lastTrace = session.lastTrace ∨
      ∃ client run payload, event = .store client run ∧
        session.phase client = .storing payload ∧
        next.lastTrace = some (.ofPayload run payload) := by
  cases h with
  | stored stores run => exact .inr ⟨_, run, _, rfl, stores, rfl⟩
  | _ => exact .inl rfl

/-! ### The invariant -/

/-- **The invariant**: the trace of the last success is on its way with one client, or it is the one
that is remembered. -/
def Current (session : Session Interpreter) (latest : Option Payload) : Prop :=
  ∃ owner : Option Client, OwnedBy Phase.carries session.phase owner ∧
    match owner with
    | none => session.lastTrace.map Log.toPayload = latest
    | some client => (session.phase client).trace? = latest

theorem current_fresh (interpreter : Interpreter) : (fresh interpreter).Current none :=
  ⟨none, fun _ => iff_of_false nofun nofun, rfl⟩

namespace Current

variable {latest : Option Payload} {payload : Payload}

/-- A client that goes on with what it carries. -/
theorem keep (h : session.Current latest) (same : phase.trace? = (session.phase client).trace?) :
    (session.setPhase client phase).Current latest := by
  obtain ⟨owner, howned, hlatest⟩ := h
  refine ⟨owner, howned.keep (congrArg Option.isSome same), ?_⟩
  cases owner with
  | none => exact hlatest
  | some owner =>
      by_cases hclient : owner = client
      · subst hclient
        simp only [phase_setPhase, if_true]
        exact same.trans hlatest
      · simp only [phase_setPhase, if_neg hclient]
        exact hlatest

/-- A run succeeds while no trace is on its way. -/
theorem succeed (h : session.Current latest) (free : ∀ other, (session.phase other).carries = false)
    (carries : phase.trace? = some payload) :
    (session.setPhase client phase).Current (some payload) := by
  obtain ⟨owner, howned, -⟩ := h
  have hnone : OwnedBy Phase.carries session.phase none := fun other =>
    iff_of_false (by rw [free other]; exact Bool.false_ne_true) nofun
  refine ⟨some client, hnone.take (congrArg Option.isSome carries), ?_⟩
  simp only [phase_setPhase, if_true]
  exact carries

/-- The trace that was on its way is stored. -/
theorem store (h : session.Current latest) (carries : (session.phase client).trace? = some payload)
    (run : RunId) :
    ({ session with lastTrace := some (.ofPayload run payload) }.setPhase client .idle).Current
      latest := by
  obtain ⟨owner, howned, hlatest⟩ := h
  have hcarries : (session.phase client).carries = true := congrArg Option.isSome carries
  obtain rfl : owner = some client := (howned client).1 hcarries
  exact ⟨none, howned.give hcarries rfl, carries.symm.trans hlatest⟩

/-- It is of no concern who has the interpreter, nor whether the flag is up. -/
theorem congr (h : session.Current latest) (hphase : next.phase = session.phase)
    (htrace : next.lastTrace = session.lastTrace) : next.Current latest := by
  obtain ⟨owner, howned, hlatest⟩ := h
  refine ⟨owner, hphase ▸ howned, ?_⟩
  cases owner with
  | none => exact (congrArg (Option.map Log.toPayload) htrace).trans hlatest
  | some owner => exact (congrArg (fun phase => (phase owner).trace?) hphase).trans hlatest

/-- **An orderly event keeps the invariant**, and a success becomes the latest one. -/
theorem step (h : session.Current latest) (orderly : session.Orderly backend event) :
    (session.step backend event).2.Current ((session.success? backend event).or latest) := by
  cases hsuccess : session.success? backend event with
  | some payload =>
      obtain ⟨client, request, rfl, hinside, hresult⟩ := success?_eq_some_iff.1 hsuccess
      have hfree := orderly.success (by rw [hsuccess]; exact Option.some_ne_none payload)
      have hreturns : Phase.trace? (.returning (backend.run request session.interpreter).1) =
          some payload := by rw [hresult]; rfl
      simp only [Session.step, leave, hinside]
      exact (h.succeed hfree hreturns).congr rfl rfl
  | none =>
      have happens := happens_step backend session event
      generalize (session.step backend event).2 = next at *
      generalize (session.step backend event).1 = answer at *
      cases happens with
      | ignored | rejected => exact h
      | admitted idle | queued idle => exact (h.keep (by rw [idle]; rfl)).congr rfl rfl
      | refused waits | entered waits | leftQueue waits =>
          exact (h.keep (by rw [waits]; rfl)).congr rfl rfl
      | finished inside | brokenOff inside => exact (h.keep (by rw [inside]; rfl)).congr rfl rfl
      | ran inside =>
          cases hresult : (backend.run _ session.interpreter).1 with
          | ok payload =>
              rw [success?_eq_some_iff.2 ⟨_, _, rfl, inside, hresult⟩] at hsuccess
              cases hsuccess
          | error error => exact (h.keep (by rw [inside]; rfl)).congr rfl rfl
      | succeeded returns | failed returns => exact (h.keep (by rw [returns]; rfl)).congr rfl rfl
      | stored stores run => exact (h.store (by rw [stores]; rfl) run).congr rfl rfl
      | dropped returns interpreter | forgotten returns interpreter =>
          -- What is given up is not a trace that was on its way.
          have hnone : (session.phase _).trace? = none :=
            Option.isNone_iff_eq_none.1 (Option.isSome_eq_false_iff.1 (orderly.abandon _ _ rfl))
          exact (h.keep (by rw [hnone]; rfl)).congr rfl rfl

end Current

/-! ### Sequences of events -/

/-- **The invariant holds after any events**, as long as the traces are stored one by one. -/
theorem Current.after {latest : Option Payload} (h : session.Current latest)
    {events : List (Event Interpreter)} (oneByOne : session.OneByOne backend events) :
    (session.after backend events).Current
      ((session.successes backend events).getLast?.or latest) := by
  induction events generalizing session latest with
  | nil => exact h
  | cons event rest ih =>
      obtain ⟨horderly, hrest⟩ := oneByOne
      have hsuccess : (session.success? backend event).toList.getLast? =
          session.success? backend event := by
        cases session.success? backend event <;> rfl
      rw [successes, List.getLast?_append, hsuccess, Option.or_assoc]
      exact ih (h.step horderly) hrest

/-- **Once nothing is on its way, the trace of the last success is remembered**, as long as every
trace is stored before the next run succeeds; and whatever happens, nothing changes what is
remembered but a client that stores the trace of its own successful run. -/
theorem lastTrace_after {interpreter : Interpreter} {events : List (Event Interpreter)}
    (oneByOne : (fresh interpreter).OneByOne backend events)
    (settled : ∀ client,
      (((fresh interpreter).after backend events).phase client).carries = false) :
    ((fresh interpreter).after backend events).lastTrace.map Log.toPayload =
        ((fresh interpreter).successes backend events).getLast? ∧
      ∀ (session : Session Interpreter) (event : Event Interpreter),
        (session.step backend event).2.lastTrace = session.lastTrace ∨
          ∃ client run payload, event = .store client run ∧
            session.phase client = .storing payload ∧
            (session.step backend event).2.lastTrace = some (.ofPayload run payload) := by
  constructor
  · obtain ⟨owner, howned, hlatest⟩ := (current_fresh interpreter).after oneByOne
    rw [Option.or_none] at hlatest
    cases owner with
    | none => exact hlatest
    | some client => exact absurd ((howned client).2 rfl) (ne_true_of_eq_false (settled client))
  · exact fun session event => (happens_step backend session event).lastTrace_eq_or

/-- An interpreter whose runs are numbered. -/
def numbering : Backend Nat where
  start interpreter := (.ok (), interpreter)
  run _ interpreter := (.ok ⟨toString interpreter, "", []⟩, interpreter + 1)
  stop interpreter := interpreter
  isStarted _ := true

/-- A client runs a program, and then another one. -/
def inOrder : List (Event Nat) :=
  [.call 0 (.run ⟨"", []⟩), .enter 0, .leave 0, .release 0, .store 0 ⟨"first"⟩,
    .call 1 (.run ⟨"", []⟩), .enter 1, .leave 1, .release 1, .store 1 ⟨"second"⟩]

/-- The first client is slow to store its trace. -/
def overtaken : List (Event Nat) :=
  [.call 0 (.run ⟨"", []⟩), .enter 0, .leave 0, .release 0,
    .call 1 (.run ⟨"", []⟩), .enter 1, .leave 1, .release 1, .store 1 ⟨"second"⟩,
    .store 0 ⟨"first"⟩]

/-- In order, the trace of the second run is remembered. -/
theorem lastTrace_inOrder :
    (fresh 0).OneByOne numbering inOrder ∧
      (∀ client, (((fresh 0).after numbering inOrder).phase client).carries = false) ∧
      ((fresh 0).after numbering inOrder).lastTrace.map Log.toPayload =
        ((fresh 0).successes numbering inOrder).getLast? := by
  have oneByOne : (fresh 0).OneByOne numbering inOrder := by
    refine ⟨⟨nofun, nofun⟩, ⟨nofun, nofun⟩, ⟨fun _ other => ?_, nofun⟩, ⟨nofun, nofun⟩,
      ⟨nofun, nofun⟩, ⟨nofun, nofun⟩, ⟨nofun, nofun⟩, ⟨fun _ other => ?_, nofun⟩, ⟨nofun, nofun⟩,
      ⟨nofun, nofun⟩, trivial⟩
    · rcases other with _ | other <;> rfl
    · rcases other with _ | _ | other <;> rfl
  have settled : ∀ client, (((fresh 0).after numbering inOrder).phase client).carries = false := by
    rintro (_ | _ | client) <;> rfl
  exact ⟨oneByOne, settled, (lastTrace_after oneByOne settled).1⟩

/-- Overtaken, the trace of the first run is remembered, though the second one succeeded last. -/
theorem lastTrace_overtaken :
    (∀ client, (((fresh 0).after numbering overtaken).phase client).carries = false) ∧
      ((fresh 0).successes numbering overtaken).map Payload.filename = ["0", "1"] ∧
      ((fresh 0).after numbering overtaken).lastTrace.map Log.filename = some "0" := by
  refine ⟨?_, by decide, by decide⟩
  rintro (_ | _ | client) <;> rfl

end TracePlayer.Session
