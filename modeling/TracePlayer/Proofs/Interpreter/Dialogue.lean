/-
**Which line answers a run.**

The program at the other end of a connection writes what it likes, whenever it likes, and a question
takes the next line that says anything.  Nothing ties a line to the question that it was meant for;
what holds is that lines are taken in order.  The answer to a question is the line whose number
among the lines of that program is the number of the questions before it.  A run is answered by a
line of its own if the program has not written more lines than it was asked questions; otherwise its
answer is settled before it is asked.

Main definitions:

* `LineBuffer.answers`: the answers in everything that a program has written;
* `Dialogue`: a worker, with what its program has written so far and how much it was asked;
* `Dialogue.Move`, `Dialogue.performAll`: the calls of a client, and whatever the program does
  between them;
* `Channel.InStep`: **the invariant**, the answers that nobody has read are those that no question
  has taken;
* `Dialogue.Answered`: what a run gets.

Main results:

* `LineBuffer.cut_append`: lines do not depend on the portions in which they arrive;
* `Channel.receive_fst`, `Channel.pending_receive`: an answer is the first one that is pending, and
  then it is not pending any more;
* `Channel.InStep.waited`, `Channel.InStep.receive`, `Dialogue.Sound.performAll`: the invariant is
  kept;
* `Dialogue.answered_performAll`: **a run gets the answer of its number**, whatever has happened.
-/
import TracePlayer.Interpreter.Worker

set_option autoImplicit false

namespace TracePlayer

/-! ### Lines -/

namespace LineBuffer

/-- Lines do not depend on the portions in which they arrive. -/
theorem cut_append (first second : List UInt8) :
    cut (first ++ second) = (cut first).push second := by
  induction first with
  | nil => rfl
  | cons byte bytes ih =>
      simp only [List.cons_append, cut, ih]
      split
      · rfl
      · simp only [push]
        cases hlines : (cut bytes).lines with
        | nil => simp only [List.nil_append, List.cons_append, cut, if_neg ‹_›]
        | cons line lines => rfl

/-- What is left of a line that has not ended holds no end of a line. -/
theorem cut_rest (bytes : List UInt8) : cut (cut bytes).rest = ⟨[], (cut bytes).rest⟩ := by
  induction bytes with
  | nil => rfl
  | cons byte bytes ih =>
      simp only [cut]
      split
      · exact ih
      · cases hlines : (cut bytes).lines with
        | nil => simp only [cut, if_neg ‹_›, ih]
        | cons line lines => exact ih

/-- The answers of some lines that have ended. -/
def answersOf (lines : List (List UInt8)) : List Reply :=
  lines.filterMap fun line => Channel.readLine (withoutReturn line)

/-- All answers of some bytes; if no more will come, what is left counts as a line. -/
def answers (ended : Bool) (buffer : LineBuffer) : List Reply :=
  answersOf buffer.lines ++
    if ended && !buffer.rest.isEmpty then (Channel.readLine buffer.rest).toList else []

/-- More bytes only add answers. -/
theorem answers_push (ended : Bool) (buffer : LineBuffer) (bytes : List UInt8) :
    (buffer.push bytes).answers ended =
      buffer.answers false ++ (cut (buffer.rest ++ bytes)).answers ended := by
  simp [answers, answersOf, push]

end LineBuffer

/-! ### One question -/

namespace Channel

open LineBuffer (cut answersOf)

variable {channel : Channel} {written bytes : List UInt8} {asked : Nat} {request : Request}
  {timeoutMillis : Nat}

/-- The answers that nobody has read. -/
def pending (channel : Channel) : List Reply := channel.unread.answers channel.peer.ended

/-- What it means that there is no answer. -/
def silence (ended : Bool) : Reply := if ended then .closed else .elapsed

/-- The first answer among some lines, and the answers after it. -/
theorem answersOf_eq (lines : List (List UInt8)) :
    answersOf lines =
      match readLines lines with
      | none => []
      | some (reply, rest) => reply :: answersOf rest := by
  unfold answersOf
  induction lines with
  | nil => rfl
  | cons line rest ih =>
      rw [readLines, List.filterMap_cons]
      cases readLine (LineBuffer.withoutReturn line) with
      | none => exact ih
      | some reply => rfl

/-- The next answer is the first one that is pending. -/
theorem receive_fst (channel : Channel) :
    channel.receive.1 = channel.pending.head?.getD (silence channel.peer.ended) := by
  rw [pending, LineBuffer.answers, answersOf_eq, receive]
  cases readLines channel.unread.lines with
  | some found => rfl
  | none =>
      simp only [readRest, silence, List.nil_append]
      cases channel.peer.ended <;> cases channel.unread.rest.isEmpty <;>
        cases readLine channel.unread.rest <;> rfl

/-- Then it is not pending any more. -/
theorem pending_receive (channel : Channel) :
    channel.receive.2.pending = channel.pending.tail := by
  rw [pending, pending, LineBuffer.answers, LineBuffer.answers, answersOf_eq channel.unread.lines,
    receive]
  cases readLines channel.unread.lines with
  | some found => rfl
  | none =>
      cases channel.peer.ended <;> cases channel.unread.rest.isEmpty <;>
        cases readLine channel.unread.rest <;> rfl

/-- Reading is of no concern to the program at the other end. -/
theorem peer_receive (channel : Channel) : channel.receive.2.peer = channel.peer := by
  unfold receive
  split <;> rfl

/-- The line that the program is writing stays, unless it has ended. -/
theorem rest_receive (channel : Channel) :
    channel.receive.2.unread.rest = channel.unread.rest ∨
      channel.peer.ended = true ∧ channel.receive.2.unread.rest = [] := by
  unfold receive
  split
  · exact .inl rfl
  · cases channel.peer.ended with
    | true => exact .inr ⟨rfl, rfl⟩
    | false => exact .inl rfl

/-! ### The invariant -/

/-- **The invariant**: the answers that nobody has read are those that no question has taken, among
all that the program has written. -/
structure InStep (channel : Channel) (written : List UInt8) (asked : Nat) : Prop where
  asked_le : asked ≤ ((cut written).answers channel.peer.ended).length
  pending_eq : channel.pending = ((cut written).answers channel.peer.ended).drop asked
  rest_eq : channel.unread.rest = (cut written).rest ∨
    channel.peer.ended = true ∧ channel.unread.rest = []

/-- A program that has just been launched has written nothing. -/
theorem inStep_start (actions : List Peer.Action) : (start actions).InStep [] 0 :=
  ⟨Nat.zero_le _, rfl, .inl rfl⟩

namespace InStep

/-- Whatever a program that has not ended writes, and whatever becomes of it. -/
theorem push (inStep : channel.InStep written asked) (running : channel.peer.ended = false)
    (bytes : List UInt8) (peer : Peer) :
    InStep ⟨peer, channel.unread.push bytes⟩ (written ++ bytes) asked := by
  have hle := inStep.asked_le
  have hpending := inStep.pending_eq
  have hrest := inStep.rest_eq.resolve_right fun h => Bool.false_ne_true (running.symm.trans h.1)
  rw [pending, running] at hpending
  rw [running] at hle
  constructor
  · rw [LineBuffer.cut_append, LineBuffer.answers_push, List.length_append]
    exact Nat.le_add_right_of_le hle
  · rw [pending, LineBuffer.cut_append, LineBuffer.answers_push, LineBuffer.answers_push, hpending,
      hrest, List.drop_append_of_le_length hle]
  · rw [LineBuffer.cut_append]
    exact .inl (congrArg (fun rest => (cut (rest ++ bytes)).rest) hrest)

/-- A question that is answered takes the first answer that is pending. -/
theorem receive (inStep : channel.InStep written asked) (answered : channel.pending ≠ []) :
    channel.receive.2.InStep written (asked + 1) := by
  have hpending := inStep.pending_eq
  constructor
  · rw [peer_receive]
    rw [hpending, ne_eq, List.drop_eq_nil_iff, Nat.not_le] at answered
    exact answered
  · rw [pending_receive, peer_receive, hpending, List.tail_drop]
  · rw [peer_receive]
    rcases channel.rest_receive with hsame | hnone
    · rw [hsame]
      exact inStep.rest_eq
    · exact .inr hnone

/-- What is left of a line is cut nowhere. -/
theorem push_nil (inStep : channel.InStep written asked) :
    channel.unread.push [] = channel.unread := by
  have hcut : cut channel.unread.rest = ⟨[], channel.unread.rest⟩ := by
    rcases inStep.rest_eq with hrest | ⟨-, hrest⟩
    · rw [hrest]
      exact LineBuffer.cut_rest written
    · rw [hrest]
      rfl
  rw [LineBuffer.push, List.append_nil, hcut, List.append_nil]

end InStep

/-! ### Waiting -/

/-- The connection after a question has been sent and some time has been waited. -/
def waited (channel : Channel) (request : Request) (timeoutMillis : Nat) : Channel :=
  let sent := { channel with peer := channel.peer.take (trimNewlines request.line) }
  if timeoutMillis = 0 then sent else sent.advance

/-- What the program writes in this time. -/
def arriving (channel : Channel) (request : Request) (timeoutMillis : Nat) : List UInt8 :=
  if timeoutMillis = 0 then [] else (channel.peer.take (trimNewlines request.line)).advance.1

theorem exchange_of_takesInput (takes : channel.peer.takesInput = true) (request : Request)
    (timeoutMillis : Nat) :
    channel.exchange request timeoutMillis = (channel.waited request timeoutMillis).receive := by
  simp only [exchange, send, takes, if_true, waited]

/-- A program that has ended neither writes nor changes. -/
theorem advance_of_ended (ended : channel.peer.ended = true) (line : String) :
    (channel.peer.take line).advance = ([], channel.peer.take line) :=
  if_pos ended

/-- Waiting keeps the invariant. -/
theorem InStep.waited (inStep : channel.InStep written asked) (request : Request)
    (timeoutMillis : Nat) :
    (channel.waited request timeoutMillis).InStep
      (written ++ channel.arriving request timeoutMillis) asked := by
  have hsent : InStep { channel with peer := channel.peer.take (trimNewlines request.line) }
      written asked := ⟨inStep.asked_le, inStep.pending_eq, inStep.rest_eq⟩
  unfold Channel.waited arriving
  split
  · rwa [List.append_nil]
  · cases hended : channel.peer.ended with
    | false => exact hsent.push hended _ _
    | true =>
        simp only [Channel.advance, advance_of_ended hended, List.append_nil, inStep.push_nil]
        exact hsent

/-- It leaves the answers in place that the program has given. -/
theorem answers_prefix_waited (channel : Channel) (written : List UInt8) (request : Request)
    (timeoutMillis : Nat) :
    (cut written).answers channel.peer.ended <+:
      (cut (written ++ channel.arriving request timeoutMillis)).answers
        (channel.waited request timeoutMillis).peer.ended := by
  unfold waited arriving
  split
  · rw [List.append_nil]
    exact List.prefix_rfl
  · cases hended : channel.peer.ended with
    | false =>
        rw [LineBuffer.cut_append, LineBuffer.answers_push]
        exact List.prefix_append _ _
    | true =>
        simp only [advance, advance_of_ended hended, List.append_nil]
        exact (congrArg (LineBuffer.answers · (cut written)) hended).symm ▸ List.prefix_rfl

end Channel

/-! ### Workers -/

namespace Worker

open Channel (silence)

variable {worker : Worker} {channel next : Channel} {request : RunRequest}

/-- What a run gets: the first answer that is pending when the waiting is over. -/
theorem run_fst (up : worker.channel = some channel) (takes : channel.peer.takesInput = true)
    (request : RunRequest) :
    (worker.run request).1 =
      (verdict worker.launch.runTimeoutMillis
        ((channel.waited (.run request) worker.launch.runTimeoutMillis).pending.head?.getD
          (silence
            (channel.waited (.run request) worker.launch.runTimeoutMillis).peer.ended))).1 := by
  simp only [run, up, Channel.exchange_of_takesInput takes, Channel.receive_fst]

/-- A connection that a run keeps has given an answer. -/
theorem channel_run (up : worker.channel = some channel)
    (keeps : (worker.run request).2.channel = some next) :
    (channel.waited (.run request) worker.launch.runTimeoutMillis).pending ≠ [] ∧
      next = (channel.waited (.run request) worker.launch.runTimeoutMillis).receive.2 := by
  simp only [run, up] at keeps
  cases htakes : channel.peer.takesInput with
  | false =>
      simp [Channel.exchange, Channel.send, htakes, verdict] at keeps
  | true =>
      rw [Channel.exchange_of_takesInput htakes, Channel.receive_fst] at keeps
      split at keeps
      · next husable =>
          refine ⟨fun hnone => ?_, (Option.some_inj.1 keeps).symm⟩
          rw [hnone, List.head?_nil, Option.getD_none, silence] at husable
          split at husable <;> cases husable
      · cases keeps

/-- So has one that a start leaves. -/
theorem channel_start {actions : List Peer.Action} (down : worker.isStarted = false)
    (runs : worker.spawn = .runs actions) (keeps : worker.start.2.channel = some next) :
    ((Channel.start actions).waited .init worker.launch.initTimeoutMillis).pending ≠ [] ∧
      next = ((Channel.start actions).waited .init worker.launch.initTimeoutMillis).receive.2 := by
  have hnone : worker.channel = none :=
    Option.isNone_iff_eq_none.1 (Option.isSome_eq_false_iff.1 down)
  simp only [start, down, runs, Bool.false_eq_true, if_false,
    Channel.exchange_of_takesInput (show (Channel.start actions).peer.takesInput = true from rfl),
    Channel.receive_fst] at keeps
  split at keeps
  · next hready =>
      refine ⟨fun hpending => ?_, (Option.some_inj.1 keeps).symm⟩
      rw [hpending, List.head?_nil, Option.getD_none, silence] at hready
      split at hready <;> cases hready
  · rw [hnone] at keeps
    cases keeps

end Worker

/-! ### Dialogues -/

/-- A worker, with what its program has written and how much it was asked. -/
structure Dialogue where
  /-- The worker. -/
  worker : Worker
  /-- All that the program of the connection has written. -/
  written : List UInt8
  /-- The number of questions that it was asked. -/
  asked : Nat

namespace Dialogue

/-- What can happen to a worker. -/
inductive Move where
  /-- It is started. -/
  | start
  /-- It is asked for a run. -/
  | run (request : RunRequest)
  /-- It is stopped. -/
  | stop
  /-- Another program will be launched at the next start. -/
  | spawns (spawn : Spawn)
  /-- The program writes some bytes; from then on it may do anything. -/
  | writes (bytes : List UInt8) (peer : Peer)

/-- A worker before anything has happened. -/
def opened (launch : Launch) (spawn : Spawn) : Dialogue := ⟨.idle launch spawn, [], 0⟩

variable {dialogue : Dialogue} {channel : Channel} {request : RunRequest}

/-- A dialogue after a start: a program that is launched is asked to get ready. -/
def start (dialogue : Dialogue) : Dialogue :=
  if dialogue.worker.isStarted then dialogue
  else match dialogue.worker.spawn with
    | .fails _ => dialogue
    | .runs actions =>
        ⟨dialogue.worker.start.2,
          (Channel.start actions).arriving .init dialogue.worker.launch.initTimeoutMillis, 1⟩

/-- A dialogue after it was asked for a run. -/
def run (dialogue : Dialogue) (request : RunRequest) : Dialogue :=
  match dialogue.worker.channel with
  | none => dialogue
  | some channel =>
      ⟨(dialogue.worker.run request).2,
        dialogue.written ++
          channel.arriving (.run request) dialogue.worker.launch.runTimeoutMillis,
        dialogue.asked + 1⟩

/-- A dialogue after its program has written something; one that has ended writes nothing. -/
def writes (dialogue : Dialogue) (bytes : List UInt8) (peer : Peer) : Dialogue :=
  match dialogue.worker.channel with
  | none => dialogue
  | some channel =>
      if channel.peer.ended then dialogue
      else
        ⟨{ dialogue.worker with channel := some ⟨peer, channel.unread.push bytes⟩ },
          dialogue.written ++ bytes, dialogue.asked⟩

/-- A dialogue after something has happened. -/
def perform (dialogue : Dialogue) : Move → Dialogue
  | .start => dialogue.start
  | .run request => dialogue.run request
  | .stop => { dialogue with worker := dialogue.worker.stop }
  | .spawns spawn => { dialogue with worker := { dialogue.worker with spawn := spawn } }
  | .writes bytes peer => dialogue.writes bytes peer

/-- A dialogue after some things have happened. -/
def performAll (dialogue : Dialogue) (moves : List Move) : Dialogue :=
  moves.foldl perform dialogue

/-- The invariant holds of the connection, if there is one. -/
def Sound (dialogue : Dialogue) : Prop :=
  ∀ channel, dialogue.worker.channel = some channel →
    channel.InStep dialogue.written dialogue.asked

/-! ### The invariant along a dialogue -/

theorem sound_opened (launch : Launch) (spawn : Spawn) : (opened launch spawn).Sound := nofun

namespace Sound

theorem start (sound : dialogue.Sound) : dialogue.start.Sound := by
  unfold Dialogue.start
  split
  · exact sound
  · next hdown =>
      cases hspawn : dialogue.worker.spawn with
      | fails reason => exact sound
      | runs actions =>
          intro next keeps
          obtain ⟨hpending, rfl⟩ :=
            Worker.channel_start (eq_false_of_ne_true hdown) hspawn keeps
          exact ((Channel.inStep_start actions).waited _ _).receive hpending

theorem run (sound : dialogue.Sound) (request : RunRequest) : (dialogue.run request).Sound := by
  unfold Dialogue.run
  split
  · exact sound
  · next channel up =>
      intro next keeps
      obtain ⟨hpending, rfl⟩ := Worker.channel_run up keeps
      exact ((sound channel up).waited _ _).receive hpending

theorem writes (sound : dialogue.Sound) (bytes : List UInt8) (peer : Peer) :
    (dialogue.writes bytes peer).Sound := by
  unfold Dialogue.writes
  split
  · exact sound
  · next channel up =>
      split
      · exact sound
      · next hrunning =>
          rintro next ⟨⟩
          exact (sound channel up).push (eq_false_of_ne_true hrunning) bytes peer

/-- Whatever happens keeps the invariant. -/
theorem perform (sound : dialogue.Sound) (move : Move) : (dialogue.perform move).Sound := by
  cases move with
  | start => exact sound.start
  | run request => exact sound.run request
  | stop => exact nofun
  | spawns spawn => exact sound
  | writes bytes peer => exact sound.writes bytes peer

theorem performAll (sound : dialogue.Sound) (moves : List Move) :
    (dialogue.performAll moves).Sound := by
  induction moves generalizing dialogue with
  | nil => exact sound
  | cons move rest ih => exact ih (sound.perform move)

end Sound

/-! ### What a run gets -/

/-- The answers that the program has given when a run is asked for. -/
def given (dialogue : Dialogue) (channel : Channel) : List Reply :=
  (LineBuffer.cut dialogue.written).answers channel.peer.ended

/-- The connection when the waiting for a run is over. -/
def later (dialogue : Dialogue) (channel : Channel) (request : RunRequest) : Channel :=
  channel.waited (.run request) dialogue.worker.launch.runTimeoutMillis

/-- The answers that the program has given when the waiting is over. -/
def givenLater (dialogue : Dialogue) (channel : Channel) (request : RunRequest) : List Reply :=
  (LineBuffer.cut (dialogue.written ++
    channel.arriving (.run request) dialogue.worker.launch.runTimeoutMillis)).answers
      (dialogue.later channel request).peer.ended

/-- The result of a run that is answered by the first of some answers. -/
def resultOf (dialogue : Dialogue) (channel : Channel) (request : RunRequest)
    (replies : List Reply) : Except InterpreterError Payload :=
  (Worker.verdict dialogue.worker.launch.runTimeoutMillis
    (replies.head?.getD (Channel.silence (dialogue.later channel request).peer.ended))).1

/-- **What a run gets**: an answer of its own if every answer so far was taken by an earlier
question, and otherwise one that was there before. -/
structure Answered (dialogue : Dialogue) (channel : Channel) (request : RunRequest) : Prop where
  /-- Every earlier question has taken an answer. -/
  asked_le : dialogue.asked ≤ (dialogue.given channel).length
  /-- If no answer is left, the run gets the first one that is given after it was asked for. -/
  own : (dialogue.given channel).length = dialogue.asked →
    (dialogue.worker.run request).1 = dialogue.resultOf channel request
      ((dialogue.givenLater channel request).drop (dialogue.given channel).length)
  /-- If one is left, the run gets it, whatever is asked for and whatever the program does. -/
  settled : ∀ reply, (dialogue.given channel)[dialogue.asked]? = some reply →
    (dialogue.worker.run request).1 =
      (Worker.verdict dialogue.worker.launch.runTimeoutMillis reply).1

/-- **A run gets the answer of its number**, whatever has happened before. -/
theorem answered_performAll (launch : Launch) (spawn : Spawn) (moves : List Move)
    (request : RunRequest) {channel : Channel}
    (up : ((opened launch spawn).performAll moves).worker.channel = some channel)
    (takes : channel.peer.takesInput = true) :
    ((opened launch spawn).performAll moves).Answered channel request := by
  have sound := (sound_opened launch spawn).performAll moves
  generalize (opened launch spawn).performAll moves = dialogue at *
  have hbefore := sound channel up
  have hlater := hbefore.waited (.run request) dialogue.worker.launch.runTimeoutMillis
  have hresult := Worker.run_fst up takes request
  rw [hlater.pending_eq] at hresult
  constructor
  · exact hbefore.asked_le
  · intro hall
    rw [hall]
    exact hresult
  · intro reply hreply
    obtain ⟨more, hmore⟩ := channel.answers_prefix_waited dialogue.written (.run request)
      dialogue.worker.launch.runTimeoutMillis
    unfold given at hreply
    rw [hresult, ← hmore, List.head?_drop,
      List.getElem?_append_left (List.getElem?_eq_some_iff.1 hreply).1, hreply, Option.getD_some]

/-- The line of a trace without events. -/
def traceLine (name : String) : String :=
  "\x7b\"type\":\"trace\",\"payload\":\x7b\"filename\":\"" ++ name ++ "\",\"trace\":[]\x7d\x7d"

/-- A program that writes a line too many before its first trace. -/
def noisy : Spawn :=
  .runs [.read, .print "\x7b\"type\":\"ready\"\x7d", .read, .print "noise", .print (traceLine "a"),
    .read, .print (traceLine "b"), .read]

/-- A dialogue with this program, after the first run. -/
def afterNoise : Dialogue :=
  (opened .standard noisy).performAll [.start, .run ⟨"a", []⟩]

/-- The connection is still up, with an answer that nobody has read. -/
theorem exists_channel_afterNoise :
    ∃ channel reply, afterNoise.worker.channel = some channel ∧
      channel.peer.takesInput = true ∧ (afterNoise.given channel)[2]? = some reply ∧
      ((Worker.verdict afterNoise.worker.launch.runTimeoutMillis reply).1.toOption.map
        Payload.filename) = some "a" := by
  have hstate : (afterNoise.worker.channel.bind fun channel =>
      ((afterNoise.given channel)[2]?).map fun reply =>
        (channel.peer.takesInput,
          (Worker.verdict afterNoise.worker.launch.runTimeoutMillis reply).1.toOption.map
            Payload.filename)) = some (true, some "a") := by
    decide +kernel
  obtain ⟨channel, up, hchannel⟩ := Option.bind_eq_some_iff.1 hstate
  obtain ⟨reply, hreply, hpair⟩ := Option.map_eq_some_iff.1 hchannel
  obtain ⟨htakes, hfile⟩ := Prod.mk.inj hpair
  exact ⟨channel, reply, up, htakes, hreply, hfile⟩

/-- Two questions have taken the first two answers, so the third one is settled. -/
theorem answered_afterNoise :
    ∃ channel, afterNoise.worker.channel = some channel ∧ channel.peer.takesInput = true ∧
      afterNoise.Answered channel ⟨"b", []⟩ := by
  obtain ⟨channel, _, up, takes, -⟩ := exists_channel_afterNoise
  exact ⟨channel, up, takes,
    answered_performAll .standard noisy [.start, .run ⟨"a", []⟩] ⟨"b", []⟩ up takes⟩

/-- The second run gets the trace of the first one, which was there before it was asked for. -/
theorem run_afterNoise :
    ∃ channel reply, afterNoise.worker.channel = some channel ∧ afterNoise.asked = 2 ∧
      (afterNoise.given channel)[2]? = some reply ∧
      (Worker.verdict afterNoise.worker.launch.runTimeoutMillis reply).1.toOption.map
        Payload.filename = some "a" ∧
      (afterNoise.worker.run ⟨"b", []⟩).1.toOption.map Payload.filename = some "a" := by
  obtain ⟨channel, reply, up, -, hreply, hfile⟩ := exists_channel_afterNoise
  exact ⟨channel, reply, up, by decide +kernel, hreply, hfile, by decide +kernel⟩

end Dialogue

end TracePlayer
