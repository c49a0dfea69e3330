/-
**Trace documents.**

A trace document is an object with a file name, the source text and the list of events, or just
the list of events.

Main definitions:

* `Payload`: what a trace document holds;
* `TraceError`: why a document is refused;
* `Payload.decode`, `Payload.parse`: the payload of a JSON value and of a text; the step numbers of
  its events never decrease;
* `Payload.encode`: the object that stands for a payload.
-/
import TracePlayer.Text.Lines
import TracePlayer.Trace.Codec

set_option autoImplicit false

namespace TracePlayer

/-- What a trace document holds. -/
structure Payload where
  /-- The name the program ran under. -/
  filename : String
  /-- The source text of the program. -/
  source : String
  /-- The events, in order. -/
  events : List Event

/-- Why a trace document is refused. -/
inductive TraceError where
  /-- The text is not JSON. -/
  | notJson
  /-- The value has another shape. -/
  | malformed (cause : DecodeError)
  /-- A step number is smaller than the one before. -/
  | stepOrder (position : Nat) (previous found : UInt64)
  /-- The text could not be read at all. -/
  | unreadable (reason : String)

/-- The words for an error. -/
def TraceError.message : TraceError → String
  | notJson => "Parse error: not a JSON text"
  | malformed cause => "Parse error: " ++ cause.message
  | stepOrder position previous found =>
      "Step order violated at position " ++ toString position ++ ": step "
        ++ toString found.toNat ++ " follows step " ++ toString previous.toNat
  | unreadable reason => "I/O error: " ++ reason

namespace Payload

/-- The file name of a program that came without one. -/
def defaultFilename : String := "<user_code>"

/-! ### Reading -/

/-- A part of a trace document. -/
inductive Field where
  | filename
  | source
  | events
  deriving DecidableEq

/-- The name under which a part is written. -/
def Field.name : Field → String
  | filename => "filename"
  | source => "code"
  | events => "trace"

/-- The long name that a reader accepts as well. -/
def Field.alias? : Field → Option String
  | filename => none
  | source => some "sourceCode"
  | events => some "events"

/-- The part that a key names. -/
def Field.ofKey? (key : String) : Option Field :=
  [filename, source, events].find? fun field =>
    field.name == key || field.alias? == some key

/-- The parts of a trace document read so far. -/
structure Draft where
  /-- The file name, if it has been read. -/
  filename : Option String := none
  /-- The source text, if it has been read. -/
  source : Option String := none
  /-- The events, if they have been read. -/
  events : Option (List Event) := none

/-- The events that a JSON value stands for. -/
def decodeEvents : Json → Except DecodeError (List Event)
  | .arr items => items.mapM Event.decode
  | value => .error (.wrongType value .sequence)

/-- Reads one entry of an object; entries that are no part of a document are passed over. -/
def Draft.add (draft : Draft) (entry : String × Json) : Except DecodeError Draft :=
  match Field.ofKey? entry.1 with
  | none => .ok draft
  | some .filename =>
      if draft.filename.isSome then .error (.duplicate Field.filename.name)
      else entry.2.toText.map fun text => { draft with filename := some text }
  | some .source =>
      if draft.source.isSome then .error (.duplicate Field.source.name)
      else entry.2.toText.map fun text => { draft with source := some text }
  | some .events =>
      if draft.events.isSome then .error (.duplicate Field.events.name)
      else (decodeEvents entry.2).map fun events => { draft with events := some events }

/-- The payload made of the parts; each of them may be missing. -/
def Draft.finish (draft : Draft) : Payload where
  filename := draft.filename.getD defaultFilename
  source := draft.source.getD ""
  events := draft.events.getD []

/-- The first place at which a step number is smaller than the one before, counted on from
`position`. -/
def firstDecrease (position : Nat) : List Event → Option (Nat × UInt64 × UInt64)
  | first :: second :: rest =>
      if second.step < first.step then some (position, first.step, second.step)
      else firstDecrease (position + 1) (second :: rest)
  | _ => none

/-- The payload itself, if its step numbers never decrease. -/
def checkOrder (payload : Payload) : Except TraceError Payload :=
  match firstDecrease 1 payload.events with
  | some (position, previous, found) => .error (.stepOrder position previous found)
  | none => .ok payload

/-- The parts that a JSON value stands for, whatever the order of their steps. -/
def decodeParts : Json → Except DecodeError Payload
  | .arr items => do
      let events ← decodeEvents (.arr items)
      return ⟨defaultFilename, "", events⟩
  | .obj entries => do
      let draft ← entries.foldlM Draft.add {}
      return draft.finish
  | value => .error (.notATrace value)

/-- The payload that a JSON value stands for. -/
def decode (value : Json) : Except TraceError Payload :=
  match decodeParts value with
  | .error cause => .error (.malformed cause)
  | .ok payload => payload.checkOrder

/-- The payload that a text stands for. -/
def parse (text : String) : Except TraceError Payload :=
  match Json.parse? text with
  | none => .error .notJson
  | some value => decode value

/-! ### Writing -/

/-- The object that stands for a payload. -/
def encode (payload : Payload) : Json :=
  .obj [(Field.filename.name, .str payload.filename), (Field.source.name, .str payload.source),
    (Field.events.name, .arr (payload.events.map Event.encode))]

/-- The document that stands for a payload. -/
def document (payload : Payload) : String := payload.encode.pretty

/-- The lines of the source text. -/
def sourceLines (payload : Payload) : List String := Lines.split payload.source

/-- Equality of payloads, their values compared as values. -/
def same (x y : Payload) : Bool :=
  x.filename == y.filename && x.source == y.source
    && x.events.length == y.events.length
    && (x.events.zip y.events).all fun pair => pair.1.same pair.2

/-- Whether a payload is read back from its own document. -/
def readsBack (payload : Payload) : Bool :=
  match parse payload.document with
  | .ok other => payload.same other
  | .error _ => false

end Payload

end TracePlayer
