/-
**Events as JSON objects.**

Main definitions:

* `EventDraft`: the parts of an event read so far;
* `Event.decode`: the event that a JSON value stands for; entries are read in the order in which
  they were written, and the first fault is reported;
* `Event.encode`: the object that stands for an event.
-/
import TracePlayer.Json.Reader
import TracePlayer.Trace.Field

set_option autoImplicit false

namespace TracePlayer

/-! ### Reading -/

/-- The parts of an event read so far. -/
structure EventDraft where
  /-- The content of each part that has been read. -/
  value : (field : EventField) → Option field.Value
  /-- The entries that are no part of an event. -/
  extra : Bindings Json

namespace EventDraft

/-- Nothing read yet. -/
def empty : EventDraft := ⟨fun _ => none, .empty⟩

/-- Fills one part. -/
def fill (draft : EventDraft) (field : EventField) (content : field.Value) : EventDraft :=
  { draft with
    value := fun other => if h : field = other then some (h ▸ content) else draft.value other }

/-- Reads one entry of an object. -/
def add (draft : EventDraft) (entry : String × Json) : Except DecodeError EventDraft :=
  match EventField.ofKey? entry.1 with
  | none => .ok { draft with extra := draft.extra.insert entry.1 entry.2 }
  | some field =>
      if (draft.value field).isSome then .error (.duplicate field.name)
      else (field.read entry.2).map (draft.fill field)

/-- The content of a part that must be there. -/
def require (draft : EventDraft) (field : EventField) : Except DecodeError field.Value :=
  match draft.value field with
  | some content => .ok content
  | none => .error (.missing field.name)

/-- The event made of the parts; a step number, a kind and a frame must be there. -/
def finish (draft : EventDraft) : Except DecodeError Event := do
  let step : UInt64 ← draft.require .step
  let kind : Kind ← draft.require .kind
  let frame : FrameId ← draft.require .frame
  return {
    step := step
    timestamp := (draft.value .timestamp).getD (0 : UInt64)
    delta := (draft.value .delta).getD (0 : UInt64)
    kind := kind
    function := (draft.value .function).getD ""
    line := (draft.value .line).getD (0 : UInt32)
    frame := frame
    parent := (draft.value .parent).getD none
    depth := (draft.value .depth).getD (0 : UInt32)
    args := (draft.value .args).getD none
    assignments := (draft.value .assignments).getD none
    previous := (draft.value .previous).getD none
    returnValue := draft.value .returnValue
    stdout := (draft.value .stdout).getD none
    extra := draft.extra }

end EventDraft

/-- The event that a JSON value stands for. -/
def Event.decode : Json → Except DecodeError Event
  | .obj entries => entries.foldlM EventDraft.add EventDraft.empty >>= EventDraft.finish
  | value => .error (.wrongType value .event)

/-! ### Writing -/

namespace Event

/-- A 64 bit word as a JSON value. -/
def wordJson (word : UInt64) : Json := .ofNat word.toNat

/-- An entry that is written only if it is there. -/
def optionalEntry {α : Type} (field : EventField) (encode : α → Json) :
    Option α → List (String × Json)
  | none => []
  | some a => [(field.name, encode a)]

/-- Bindings as a JSON object. -/
def bindingsJson (bindings : Bindings Json) : Json := .obj bindings.toList

/-- The entries of the object that stands for an event. -/
def entries (event : Event) : List (String × Json) :=
  [(EventField.step.name, wordJson event.step),
    (EventField.timestamp.name, wordJson event.timestamp),
    (EventField.delta.name, wordJson event.delta),
    (EventField.kind.name, .str event.kind.name),
    (EventField.function.name, .str event.function),
    (EventField.line.name, .ofNat event.line.toNat),
    (EventField.frame.name, wordJson event.frame),
    (EventField.parent.name, .ofOption wordJson event.parent),
    (EventField.depth.name, .ofNat event.depth.toNat)]
    ++ optionalEntry .args bindingsJson event.args
    ++ optionalEntry .assignments bindingsJson event.assignments
    ++ optionalEntry .previous bindingsJson event.previous
    ++ optionalEntry .returnValue id event.returnValue
    ++ optionalEntry .stdout Json.str event.stdout
    ++ event.extra.toList

/-- The object that stands for an event. -/
def encode (event : Event) : Json := .obj event.entries

/-- Whether an event is read back from its own text. -/
def readsBack (event : Event) : Bool :=
  match (Json.parse? event.encode.compress).map Event.decode with
  | some (.ok other) => event.same other
  | _ => false

end Event

end TracePlayer
