/-
**Entries of an event object.**

An event is written as an object.  Each part of it has a short name and most have a long one; a
reader accepts either, but not both in one object.

Main definitions:

* `DecodeError`, `DecodeError.message`: what can be wrong with a JSON value of another shape;
* `EventField`, `EventField.name`, `EventField.alias?`, `EventField.ofKey?`: the parts of an event
  and their names;
* `EventField.Value`, `EventField.read`: what each part holds and which JSON values stand for it.
-/
import TracePlayer.Text.Quoted
import TracePlayer.Trace.Event

set_option autoImplicit false

namespace TracePlayer

/-! ### Errors -/

/-- The shape that a reader expects. -/
inductive Shape where
  | word64
  | word32
  | string
  | map
  | sequence
  | event
  deriving DecidableEq

/-- The words for a shape. -/
def Shape.text : Shape → String
  | word64 => "u64"
  | word32 => "u32"
  | string => "a string"
  | map => "a map"
  | sequence => "a sequence"
  | event => "struct Event"

/-- What is wrong with a JSON value. -/
inductive DecodeError where
  /-- The value has another shape. -/
  | wrongType (found : Json) (expected : Shape)
  /-- The value is a whole number out of range. -/
  | outOfRange (found : Int) (expected : Shape)
  /-- A part that must be there is missing. -/
  | missing (name : String)
  /-- A part is there twice. -/
  | duplicate (name : String)
  /-- The whole document is neither an object nor an array. -/
  | notATrace (found : Json)

/-- The words for a value found where another shape was expected. -/
def Json.describe : Json → String
  | null => "null"
  | bool b => "boolean `" ++ (if b then "true" else "false") ++ "`"
  | num (.int n) => "integer `" ++ toString n ++ "`"
  | num (.float negative rank) =>
      "floating point `" ++ (Number.float negative rank).render ++ "`"
  | str s => "string " ++ quoted s
  | arr _ => "sequence"
  | obj _ => "map"

/-- The words for the kind of a value. -/
def Json.kindText : Json → String
  | null => "null"
  | bool _ => "a boolean"
  | num _ => "a number"
  | str _ => "a string"
  | arr _ => "an array"
  | obj _ => "an object"

/-- The words for an error. -/
def DecodeError.message : DecodeError → String
  | wrongType found expected =>
      "invalid type: " ++ found.describe ++ ", expected " ++ expected.text
  | outOfRange found expected =>
      "invalid value: integer `" ++ toString found ++ "`, expected " ++ expected.text
  | missing name => "missing field `" ++ name ++ "`"
  | duplicate name => "duplicate field `" ++ name ++ "`"
  | notATrace found => "expected a trace object or array, got " ++ found.kindText

/-! ### Simple values -/

/-- A whole number of 64 bits. -/
def Json.toWord64 : Json → Except DecodeError UInt64
  | num (.int n) =>
      if 0 ≤ n ∧ n < UInt64.size then .ok (UInt64.ofNat n.toNat)
      else .error (.outOfRange n .word64)
  | value => .error (.wrongType value .word64)

/-- A whole number of 32 bits. -/
def Json.toWord32 : Json → Except DecodeError UInt32
  | num (.int n) =>
      if 0 ≤ n ∧ n < UInt32.size then .ok (UInt32.ofNat n.toNat)
      else .error (.outOfRange n .word32)
  | value => .error (.wrongType value .word32)

/-- A string. -/
def Json.toText : Json → Except DecodeError String
  | str s => .ok s
  | value => .error (.wrongType value .string)

/-- The bindings of an object. -/
def Json.toBindings : Json → Except DecodeError (Bindings Json)
  | obj fields => .ok (Bindings.ofPairs fields)
  | value => .error (.wrongType value .map)

/-- Nothing for `null`, and otherwise what another reader makes of the value. -/
def Json.orNull {α : Type} (read : Json → Except DecodeError α) :
    Json → Except DecodeError (Option α)
  | null => .ok none
  | value => (read value).map some

/-! ### Parts of an event -/

/-- A part of an event. -/
inductive EventField where
  | step
  | timestamp
  | delta
  | kind
  | function
  | line
  | frame
  | parent
  | depth
  | args
  | assignments
  | previous
  | returnValue
  | stdout
  deriving DecidableEq

namespace EventField

/-- The parts, in the order in which they are written. -/
def all : List EventField :=
  [step, timestamp, delta, kind, function, line, frame, parent, depth, args, assignments,
    previous, returnValue, stdout]

/-- The name under which a part is written. -/
def name : EventField → String
  | step => "step"
  | timestamp => "ts"
  | delta => "dt"
  | kind => "event"
  | function => "func"
  | line => "line"
  | frame => "fid"
  | parent => "parent"
  | depth => "depth"
  | args => "args"
  | assignments => "set"
  | previous => "prev"
  | returnValue => "ret"
  | stdout => "out+"

/-- The long name that a reader accepts as well. -/
def alias? : EventField → Option String
  | timestamp => some "timestamp"
  | delta => some "deltaTime"
  | kind => some "kind"
  | function => some "functionName"
  | line => some "sourceLine"
  | frame => some "frameId"
  | parent => some "parentFrameId"
  | assignments => some "assignments"
  | previous => some "previous"
  | returnValue => some "returnValue"
  | stdout => some "stdout"
  | _ => none

/-- Whether a key names the part. -/
def hasKey (field : EventField) (key : String) : Bool :=
  field.name == key || field.alias? == some key

/-- The part that a key names. -/
def ofKey? (key : String) : Option EventField := all.find? fun field => field.hasKey key

/-- What a part holds. -/
def Value : EventField → Type
  | step | timestamp | delta => UInt64
  | kind => Kind
  | function => String
  | line | depth => UInt32
  | frame => FrameId
  | parent => Option FrameId
  | args | assignments | previous => Option (Bindings Json)
  | returnValue => Json
  | stdout => Option String

/-- The content of a part that a JSON value stands for. -/
def read : (field : EventField) → Json → Except DecodeError field.Value
  | step, value => value.toWord64
  | timestamp, value => value.toWord64
  | delta, value => value.toWord64
  | kind, value => value.toText.map Kind.ofName
  | function, value => value.toText
  | line, value => value.toWord32
  | frame, value => value.toWord64
  | parent, value => value.orNull Json.toWord64
  | depth, value => value.toWord32
  | args, value => value.orNull Json.toBindings
  | assignments, value => value.orNull Json.toBindings
  | previous, value => value.orNull Json.toBindings
  | returnValue, value => .ok value
  | stdout, value => value.orNull Json.toText

end EventField

end TracePlayer
