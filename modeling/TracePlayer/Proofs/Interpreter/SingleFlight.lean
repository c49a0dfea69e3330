/-
**One run at a time.**

A session hands out two things: the interpreter, for which clients wait, and the right to have a run
under way, for which nobody waits.  Each of them has at most one owner, and only the owner gives it
back.  Which of the two a client owns can be told from how far its call has come, so the flag that
turns other runs away is up exactly as long as some client has a run under way.

Main definitions:

* `Session.Happens`: **everything that one event can do to a session**;
* `Session.OwnedBy`: a token has exactly one owner, or none;
* `Session.Guarded`: the invariant, both tokens are where the phases of the clients say;
* `Session.SingleFlight`: **what can be relied on, whatever the clients do**.

Main results:

* `Session.happens_step`: an event does one of these things;
* `Session.OwnedBy.keep`, `Session.OwnedBy.take`, `Session.OwnedBy.give`: what becomes of a token
  when one client goes on to another phase;
* `Session.Guarded.step`, `Session.guarded_after`: the invariant is kept;
* `Session.singleFlight_after`: **every sequence of events leaves one run at a time**.
-/
import TracePlayer.Interpreter.Session

set_option autoImplicit false

namespace TracePlayer.Session

variable {Interpreter : Type}

/-! ### What an event does -/

/-- Whether a client has the interpreter. -/
def Phase.isInside : Phase → Bool
  | inside _ => true
  | _ => false

/-- The client that an event is about. -/
def Event.client : Event Interpreter → Client
  | .call client _ | .enter client | .leave client | .release client | .store client _
  | .abandon client _ => client

/-- **Everything that one event can do to a session**, with the answer that the client gets. -/
inductive Happens (backend : Backend Interpreter) (session : Session Interpreter) :
    Event Interpreter → Option Answer → Session Interpreter → Prop
  /-- The client is not where the event would find it. -/
  | ignored (event : Event Interpreter) : Happens backend session event none session
  /-- A run is called while another one is under way. -/
  | rejected {client : Client} {request : RunRequest} (idle : session.phase client = .idle)
      (busy : session.busy = true) :
      Happens backend session (.call client (.run request)) (some (.failed .busy)) session
  /-- A run is called while no other one is under way. -/
  | admitted {client : Client} {request : RunRequest} (idle : session.phase client = .idle)
      (free : session.busy = false) :
      Happens backend session (.call client (.run request)) none
        ({ session with busy := true }.setPhase client (.waiting (.run request)))
  /-- A start or a stop is called. -/
  | queued {client : Client} {call : Call} (idle : session.phase client = .idle)
      (other : call.isRun = false) :
      Happens backend session (.call client call) none (session.setPhase client (.waiting call))
  /-- A run finds the interpreter free, but down. -/
  | refused {client : Client} {call : Call} (waits : session.phase client = .waiting call)
      (free : session.holder = none) (isRun : call.isRun = true)
      (down : backend.isStarted session.interpreter = false) :
      Happens backend session (.enter client) none
        (session.setPhase client (.returning (.error .notStarted)))
  /-- A client gets the interpreter. -/
  | entered {client : Client} {call : Call} (waits : session.phase client = .waiting call)
      (free : session.holder = none) :
      Happens backend session (.enter client) none
        ({ session with holder := some client }.setPhase client (.inside call))
  /-- A start or a stop is over. -/
  | finished {client : Client} {call : Call} (inside : session.phase client = .inside call)
      (other : call.isRun = false) (answer : Answer) (interpreter : Interpreter) :
      Happens backend session (.leave client) (some answer)
        ({ session with interpreter := interpreter, holder := none }.setPhase client .idle)
  /-- A run is over, and has a result. -/
  | ran {client : Client} {request : RunRequest}
      (inside : session.phase client = .inside (.run request)) :
      Happens backend session (.leave client) none
        ({ session with
          interpreter := (backend.run request session.interpreter).2
          holder := none }.setPhase client
            (.returning (backend.run request session.interpreter).1))
  /-- A run that succeeded no longer counts as under way. -/
  | succeeded {client : Client} {payload : Payload}
      (returns : session.phase client = .returning (.ok payload)) :
      Happens backend session (.release client) none
        ({ session with busy := false }.setPhase client (.storing payload))
  /-- Nor does one that failed. -/
  | failed {client : Client} {error : InterpreterError}
      (returns : session.phase client = .returning (.error error)) :
      Happens backend session (.release client) (some (.failed error))
        ({ session with busy := false }.setPhase client .idle)
  /-- A trace is stored. -/
  | stored {client : Client} {payload : Payload} (stores : session.phase client = .storing payload)
      (run : RunId) :
      Happens backend session (.store client run) (some (.trace (.ofPayload run payload)))
        ({ session with lastTrace := some (.ofPayload run payload) }.setPhase client .idle)
  /-- A client gives up waiting. -/
  | leftQueue {client : Client} {call : Call} (waits : session.phase client = .waiting call)
      (interpreter : Interpreter) :
      Happens backend session (.abandon client interpreter) none
        ({ session with busy := session.busy && !call.isRun }.setPhase client .idle)
  /-- A client gives up the interpreter in the middle of a call. -/
  | brokenOff {client : Client} {call : Call} (inside : session.phase client = .inside call)
      (interpreter : Interpreter) :
      Happens backend session (.abandon client interpreter) none
        ({ session with
          interpreter := interpreter
          holder := none
          busy := session.busy && !call.isRun }.setPhase client .idle)
  /-- A client gives up a run that is over. -/
  | dropped {client : Client} {result : Except InterpreterError Payload}
      (returns : session.phase client = .returning result) (interpreter : Interpreter) :
      Happens backend session (.abandon client interpreter) none
        ({ session with busy := false }.setPhase client .idle)
  /-- A client gives up storing a trace. -/
  | forgotten {client : Client} {payload : Payload}
      (stores : session.phase client = .storing payload) (interpreter : Interpreter) :
      Happens backend session (.abandon client interpreter) none (session.setPhase client .idle)

variable {backend : Backend Interpreter} {session next : Session Interpreter}
  {event : Event Interpreter} {answer : Option Answer} {client : Client}

/-- **An event does one of these things.** -/
theorem happens_step (backend : Backend Interpreter) (session : Session Interpreter)
    (event : Event Interpreter) :
    session.Happens backend event (session.step backend event).1
      (session.step backend event).2 := by
  cases event with
  | call client call =>
      simp only [step, Session.call]
      split
      · next idle =>
          cases call with
          | start | stop => exact .queued idle rfl
          | run request =>
              simp only [Call.isRun, if_true]
              split
              · next busy => exact .rejected idle busy
              · next free => exact .admitted idle (eq_false_of_ne_true free)
      · exact .ignored _
  | enter client =>
      simp only [step, Session.enter]
      split
      · next call waits free =>
          split
          · next refuse =>
              obtain ⟨isRun, down⟩ := Bool.and_eq_true_iff.1 refuse
              exact .refused waits free isRun (by simpa using down)
          · exact .entered waits free
      · exact .ignored _
  | leave client =>
      simp only [step, Session.leave]
      split
      · next inside => exact .finished inside rfl _ _
      · next inside => exact .finished inside rfl _ _
      · next inside => exact .ran inside
      · exact .ignored _
  | release client =>
      simp only [step, Session.release]
      split
      · next returns => exact .succeeded returns
      · next returns => exact .failed returns
      · exact .ignored _
  | store client run =>
      simp only [step, Session.store]
      split
      · next stores => exact .stored stores run
      · exact .ignored _
  | abandon client interpreter =>
      simp only [step, Session.abandon]
      split
      · exact .ignored _
      · next waits => exact .leftQueue waits interpreter
      · next inside => exact .brokenOff inside interpreter
      · next returns => exact .dropped returns interpreter
      · next stores => exact .forgotten stores interpreter

@[simp] theorem phase_setPhase (session : Session Interpreter) (client other : Client)
    (phase : Phase) :
    (session.setPhase client phase).phase other
      = if other = client then phase else session.phase other := rfl

/-- An event leaves all other clients where they are. -/
theorem Happens.phase_of_ne (h : session.Happens backend event answer next)
    (hclient : client ≠ event.client) : next.phase client = session.phase client := by
  cases h with
  | ignored | rejected => rfl
  | _ => exact if_neg hclient

/-- A run ends only at an event of its own client. -/
theorem Happens.client_eq (h : session.Happens backend event answer next)
    (has : (session.phase client).holdsRun = true)
    (ends : (next.phase client).holdsRun = false) : client = event.client := by
  by_cases hclient : client = event.client
  · exact hclient
  · rw [h.phase_of_ne hclient, has] at ends
    cases ends

/-- A run no longer counts as under way once its client releases it or gives it up, and at no other
event. -/
theorem Happens.ends (h : session.Happens backend event answer next)
    (has : (session.phase client).holdsRun = true)
    (ends : (next.phase client).holdsRun = false) :
    event = .release client ∨ ∃ interpreter, event = .abandon client interpreter := by
  obtain rfl := h.client_eq has ends
  cases h with
  | ignored | rejected => rw [has] at ends; cases ends
  | admitted | refused | ran => simp [Event.client, Phase.holdsRun, Call.isRun] at ends
  | queued idle => simp [Event.client, idle, Phase.holdsRun] at has
  | entered waits =>
      simp only [Event.client, waits, phase_setPhase, if_true, Phase.holdsRun] at has ends
      rw [has] at ends
      cases ends
  | finished inside other => simp [Event.client, inside, Phase.holdsRun, other] at has
  | stored stores => simp [Event.client, stores, Phase.holdsRun] at has
  | succeeded | failed => exact .inl rfl
  | leftQueue _ interpreter | brokenOff _ interpreter | dropped _ interpreter
  | forgotten _ interpreter => exact .inr ⟨interpreter, rfl⟩

/-! ### Tokens -/

/-- **A token has an owner, or none**: the owner, and nobody else, is in a phase of some kind. -/
def OwnedBy (kind : Phase → Bool) (phase : Client → Phase) (owner : Option Client) : Prop :=
  ∀ client, kind (phase client) = true ↔ owner = some client

namespace OwnedBy

variable {kind : Phase → Bool} {owner : Option Client} {phase : Phase}

theorem unique {phase : Client → Phase} (h : OwnedBy kind phase owner) {a b : Client}
    (ha : kind (phase a) = true) (hb : kind (phase b) = true) : a = b :=
  Option.some_inj.1 (((h a).1 ha).symm.trans ((h b).1 hb))

/-- A client that goes on to a phase of the same kind has what it had. -/
theorem keep (h : OwnedBy kind session.phase owner)
    (same : kind phase = kind (session.phase client)) :
    OwnedBy kind (session.setPhase client phase).phase owner := by
  intro other
  rw [phase_setPhase]
  split
  · next e => rw [same, e, h client]
  · exact h other

/-- A token that nobody has is taken by a client. -/
theorem take (h : OwnedBy kind session.phase none) (takes : kind phase = true) :
    OwnedBy kind (session.setPhase client phase).phase (some client) := by
  intro other
  rw [phase_setPhase]
  split
  · next e => exact iff_of_true takes (congrArg some e.symm)
  · next hne =>
      refine iff_of_false (fun hother => ?_) fun e => hne (Option.some_inj.1 e).symm
      cases (h other).1 hother

/-- A client gives the token back. -/
theorem give (h : OwnedBy kind session.phase owner) (has : kind (session.phase client) = true)
    (gives : kind phase = false) :
    OwnedBy kind (session.setPhase client phase).phase none := by
  intro other
  rw [phase_setPhase]
  refine iff_of_false (fun hother => ?_) nofun
  split at hother
  · rw [gives] at hother
    cases hother
  · next hne => exact hne (h.unique hother has)

end OwnedBy

/-! ### The invariant -/

/-- Some client has a run under way and the flag is up, or neither. -/
def Flagged (session : Session Interpreter) : Prop :=
  ∃ owner : Option Client, session.busy = owner.isSome ∧
    OwnedBy Phase.holdsRun session.phase owner

/-- **The invariant**: the client that has the interpreter is inside, and the flag is up exactly
while one client has a run under way. -/
structure Guarded (session : Session Interpreter) : Prop where
  interpreter : OwnedBy Phase.isInside session.phase session.holder
  run : session.Flagged

namespace Flagged

variable {phase : Phase}

theorem busy_iff (h : session.Flagged) :
    session.busy = true ↔ ∃ client, (session.phase client).holdsRun = true := by
  obtain ⟨owner, hbusy, howned⟩ := h
  rw [hbusy, Option.isSome_iff_exists]
  exact exists_congr fun client => (howned client).symm

theorem keep (h : session.Flagged) (same : phase.holdsRun = (session.phase client).holdsRun) :
    (session.setPhase client phase).Flagged :=
  h.imp fun _ howned => ⟨howned.1, howned.2.keep same⟩

/-- A run that is let in while the flag is down puts it up. -/
theorem take (h : session.Flagged) (free : session.busy = false) (takes : phase.holdsRun = true) :
    ({ session with busy := true }.setPhase client phase).Flagged := by
  obtain ⟨owner, hbusy, howned⟩ := h
  obtain rfl : owner = none := Option.not_isSome_iff_eq_none.1 (by simp [← hbusy, free])
  exact ⟨some client, rfl, howned.take takes⟩

/-- The client whose run is under way takes the flag down. -/
theorem give (h : session.Flagged) (has : (session.phase client).holdsRun = true)
    (gives : phase.holdsRun = false) :
    ({ session with busy := false }.setPhase client phase).Flagged := by
  obtain ⟨owner, -, howned⟩ := h
  exact ⟨none, rfl, howned.give has gives⟩

end Flagged

theorem guarded_fresh (interpreter : Interpreter) : (fresh interpreter).Guarded where
  interpreter _ := iff_of_false nofun nofun
  run := ⟨none, rfl, fun _ => iff_of_false nofun nofun⟩

namespace Guarded

/-- A client that has a run under way, or none, gives up its call: the flag goes down in the first
case and stays as it is in the second. -/
theorem flagged_giveUp (h : session.Guarded) {call : Call}
    (has : (session.phase client).holdsRun = call.isRun) :
    ({ session with busy := session.busy && !call.isRun }.setPhase client .idle).Flagged := by
  cases isRun : call.isRun with
  | true =>
      rw [Bool.not_true, Bool.and_false]
      exact h.run.give (has.trans isRun) rfl
  | false =>
      rw [Bool.not_false, Bool.and_true]
      exact h.run.keep (has.trans isRun).symm

/-- **Every event keeps the invariant.** -/
theorem step (h : session.Guarded) (happens : session.Happens backend event answer next) :
    next.Guarded := by
  cases happens with
  | ignored | rejected => exact h
  | admitted idle free => exact ⟨h.interpreter.keep (by rw [idle]; rfl), h.run.take free rfl⟩
  | queued idle other =>
      exact ⟨h.interpreter.keep (by rw [idle]; rfl), h.run.keep (by rw [idle]; exact other)⟩
  | refused waits _ isRun _ =>
      exact ⟨h.interpreter.keep (by rw [waits]; rfl), h.run.keep (by rw [waits]; exact isRun.symm)⟩
  | entered waits free =>
      have hfree := h.interpreter
      rw [free] at hfree
      exact ⟨hfree.take rfl, h.run.keep (by rw [waits]; rfl)⟩
  | finished inside other =>
      exact ⟨h.interpreter.give (by rw [inside]; rfl) rfl,
        h.run.keep (by rw [inside]; exact other.symm)⟩
  | ran inside =>
      exact ⟨h.interpreter.give (by rw [inside]; rfl) rfl, h.run.keep (by rw [inside]; rfl)⟩
  | succeeded returns | failed returns | dropped returns =>
      exact ⟨h.interpreter.keep (by rw [returns]; rfl), h.run.give (by rw [returns]; rfl) rfl⟩
  | stored stores | forgotten stores =>
      exact ⟨h.interpreter.keep (by rw [stores]; rfl), h.run.keep (by rw [stores]; rfl)⟩
  | leftQueue waits =>
      exact ⟨h.interpreter.keep (by rw [waits]; rfl), h.flagged_giveUp (by rw [waits]; rfl)⟩
  | brokenOff inside =>
      exact ⟨h.interpreter.give (by rw [inside]; rfl) rfl, h.flagged_giveUp (by rw [inside]; rfl)⟩

/-- At most one client has a run under way. -/
theorem run_unique (h : session.Guarded) {a b : Client} (ha : (session.phase a).holdsRun = true)
    (hb : (session.phase b).holdsRun = true) : a = b := by
  obtain ⟨_, -, howned⟩ := h.run
  exact howned.unique ha hb

/-- **With the run that put it up the flag goes down**, whichever way the run ends. -/
theorem busy_eq_false (h : session.Guarded) (happens : session.Happens backend event answer next)
    (has : (session.phase client).holdsRun = true)
    (ends : (next.phase client).holdsRun = false) : next.busy = false := by
  have hmoved := happens.client_eq has ends
  -- If the flag were still up, the run of another client would have been under way before.
  refine eq_false_of_ne_true fun hbusy => ?_
  obtain ⟨other, hother⟩ := (h.step happens).run.busy_iff.1 hbusy
  have hne : other ≠ client := by
    rintro rfl
    rw [ends] at hother
    cases hother
  rw [happens.phase_of_ne (hmoved ▸ hne)] at hother
  exact hne (h.run_unique hother has)

end Guarded

/-! ### Sequences of events -/

/-- The session after some events. -/
def after (backend : Backend Interpreter) (session : Session Interpreter)
    (events : List (Event Interpreter)) : Session Interpreter :=
  (session.steps backend events).2

/-- The invariant holds after any events of any clients, in any order. -/
theorem guarded_after (h : session.Guarded) (events : List (Event Interpreter)) :
    (session.after backend events).Guarded := by
  induction events generalizing session with
  | nil => exact h
  | cons event rest ih => exact ih (h.step (happens_step backend session event))

/-- **What can be relied on, whatever the clients do.** -/
structure SingleFlight (backend : Backend Interpreter) (session : Session Interpreter) : Prop where
  /-- At most one client has the interpreter, so at most one run is inside it. -/
  inside_unique : ∀ a b first second, session.phase a = .inside first →
    session.phase b = .inside second → a = b
  /-- The flag is up exactly while some client has a run under way, -/
  busy_iff : session.busy = true ↔ ∃ client, (session.phase client).holdsRun = true
  /-- and no two clients ever have. -/
  run_unique : ∀ a b, (session.phase a).holdsRun = true → (session.phase b).holdsRun = true → a = b
  /-- A run that is called while the flag is up is turned away, and changes nothing at all. -/
  rejected : ∀ client request, session.phase client = .idle → session.busy = true →
    session.step backend (.call client (.run request)) = (some (.failed .busy), session)
  /-- It is turned away only if another client has a run under way. -/
  rejected_only : ∀ client request,
    (session.step backend (.call client (.run request))).1 = some (.failed .busy) →
      ∃ other, other ≠ client ∧ (session.phase other).holdsRun = true
  /-- Any other run is let in, and puts the flag up. -/
  admitted : ∀ client request, session.phase client = .idle → session.busy = false →
    session.step backend (.call client (.run request)) =
      (none, { session with busy := true }.setPhase client (.waiting (.run request)))
  /-- What other clients do leaves a run where it is. -/
  others : ∀ event client, client ≠ event.client →
    (session.step backend event).2.phase client = session.phase client
  /-- A run that finds the interpreter down is over without it. -/
  notStarted : ∀ client request, session.phase client = .waiting (.run request) →
    session.holder = none → backend.isStarted session.interpreter = false →
      session.step backend (.enter client) =
        (none, session.setPhase client (.returning (.error .notStarted)))
  /-- A run that the interpreter has finished with is over, with or without success. -/
  ran : ∀ client request, session.phase client = .inside (.run request) →
    (session.step backend (.leave client)).2.phase client =
      .returning (backend.run request session.interpreter).1
  /-- A run that is over takes the flag down, whatever its result. -/
  released : ∀ client result, session.phase client = .returning result →
    ((session.step backend (.release client)).2.phase client).holdsRun = false ∧
      (session.step backend (.release client)).2.busy = false
  /-- So does a run that its client gives up, wherever it was. -/
  abandoned : ∀ client interpreter, (session.phase client).holdsRun = true →
    (session.step backend (.abandon client interpreter)).2.phase client = .idle ∧
      (session.step backend (.abandon client interpreter)).2.busy = false
  /-- No run ends in another way, and none leaves the flag up. -/
  ends : ∀ event client, (session.phase client).holdsRun = true →
    ((session.step backend event).2.phase client).holdsRun = false →
      (event = .release client ∨ ∃ interpreter, event = .abandon client interpreter) ∧
        (session.step backend event).2.busy = false

namespace Guarded

/-- A run that is turned away is turned away because of another client. -/
theorem exists_other (h : session.Guarded) {request : RunRequest}
    (rejects : (session.step backend (.call client (.run request))).1 = some (.failed .busy)) :
    ∃ other, other ≠ client ∧ (session.phase other).holdsRun = true := by
  have happens := happens_step backend session (.call client (.run request))
  rw [rejects] at happens
  generalize (session.step backend (.call client (.run request))).2 = next at happens
  cases happens with
  | rejected idle busy =>
      obtain ⟨other, hother⟩ := h.run.busy_iff.1 busy
      refine ⟨other, ?_, hother⟩
      rintro rfl
      rw [idle] at hother
      cases hother

theorem released (h : session.Guarded) {result : Except InterpreterError Payload}
    (returns : session.phase client = .returning result) :
    ((session.step backend (.release client)).2.phase client).holdsRun = false ∧
      (session.step backend (.release client)).2.busy = false := by
  have gives : ((session.step backend (.release client)).2.phase client).holdsRun = false := by
    cases result <;> simp [Session.step, Session.release, returns, Phase.holdsRun]
  exact ⟨gives, h.busy_eq_false (happens_step backend session _) (by rw [returns]; rfl) gives⟩

theorem abandoned (h : session.Guarded) (has : (session.phase client).holdsRun = true)
    (interpreter : Interpreter) :
    (session.step backend (.abandon client interpreter)).2.phase client = .idle ∧
      (session.step backend (.abandon client interpreter)).2.busy = false := by
  have idle : (session.step backend (.abandon client interpreter)).2.phase client = .idle := by
    simp only [Session.step, Session.abandon]
    split
    · next idle => exact idle
    · exact if_pos rfl
    · exact if_pos rfl
    · exact if_pos rfl
    · exact if_pos rfl
  exact ⟨idle, h.busy_eq_false (happens_step backend session _) has (by rw [idle]; rfl)⟩

/-- All that can be relied on follows from the invariant. -/
theorem singleFlight (h : session.Guarded) (backend : Backend Interpreter) :
    session.SingleFlight backend where
  inside_unique a b first second ha hb := h.interpreter.unique (by rw [ha]; rfl) (by rw [hb]; rfl)
  busy_iff := h.run.busy_iff
  run_unique a b := h.run_unique
  rejected client request idle busy := by
    simp [Session.step, Session.call, idle, busy, Call.isRun]
  rejected_only client request := h.exists_other
  admitted client request idle free := by
    simp [Session.step, Session.call, idle, free, Call.isRun]
  others event client := (happens_step backend session event).phase_of_ne
  notStarted client request waits free down := by
    simp [Session.step, Session.enter, waits, free, down, Call.isRun]
  ran client request inside := by
    simp [Session.step, Session.leave, inside]
  released client result := h.released
  abandoned client interpreter has := h.abandoned has interpreter
  ends event client has ends :=
    ⟨(happens_step backend session event).ends has ends,
      h.busy_eq_false (happens_step backend session event) has ends⟩

end Guarded

/-- **Every sequence of events leaves one run at a time**: however many clients call, whatever the
interpreter does, and wherever the calls are given up, at most one run is inside the interpreter,
and other runs are turned away exactly while one is under way. -/
theorem singleFlight_after (backend : Backend Interpreter) (interpreter : Interpreter)
    (events : List (Event Interpreter)) :
    ((fresh interpreter).after backend events).SingleFlight backend :=
  (guarded_after (guarded_fresh interpreter) events).singleFlight backend

end TracePlayer.Session
