/-
**Records written as JSON.**

A record is written as an object of its parts or as an array of them in order.  A part that is
missing keeps what it held before.  An object may have further entries, which only need to be JSON;
an array may not.

Main definitions:

* `RecordPart`: the name of a part and how it is read;
* `readRecord`: the record that a raw form stands for;
* `Json.Raw.natural?`, `Json.Raw.double?`, `Json.Raw.text?`, `Json.Raw.texts?`: simple parts.
-/
import TracePlayer.Json.Reader

set_option autoImplicit false

namespace TracePlayer

namespace Json.Raw

/-- A natural number below a bound. -/
def natural? (bound : Nat) : Raw → Option Nat
  | num text =>
      match text.number? with
      | some (.int n) => if 0 ≤ n ∧ n < bound then some n.toNat else none
      | _ => none
  | _ => none

/-- A double; a whole number counts as one. -/
def double? : Raw → Option Binary64
  | num text =>
      match text.number? with
      | some (.int n) => some (.ofInt n)
      | some (.float negative rank) => some (.number negative rank.castSucc)
      | none => none
  | _ => none

/-- A string. -/
def text? : Raw → Option String
  | str parts => unescape? parts
  | _ => none

/-- A list of strings. -/
def texts? : Raw → Option (List String)
  | arr items => items.mapM text?
  | _ => none

end Json.Raw

/-- A part of a record. -/
structure RecordPart (Record : Type) where
  /-- The name of the part. -/
  name : String
  /-- The record with the part as a raw form gives it. -/
  read : Json.Raw → Record → Option Record

/-- A part made of a reader for what it holds and a way to put it into the record. -/
def RecordPart.of {Record Content : Type} (name : String) (read : Json.Raw → Option Content)
    (put : Content → Record → Record) : RecordPart Record :=
  ⟨name, fun raw record => (read raw).map fun content => put content record⟩

/-- Reads the parts from the items of an array, in order. -/
def readItems {Record : Type} :
    List (RecordPart Record) → Record → List Json.Raw → Option Record
  | _, record, [] => some record
  | [], _, _ :: _ => none
  | part :: parts, record, item :: items => do
      let record ← part.read item record
      readItems parts record items

/-- Reads the parts from the entries of an object; no part may be there twice. -/
def readEntries {Record : Type} (parts : List (RecordPart Record)) :
    List String → Record → List (List Json.StringPart × Json.Raw) → Option Record
  | _, record, [] => some record
  | seen, record, (name, value) :: rest => do
      let name ← Json.unescape? name
      match parts.find? fun part => part.name == name with
      | none => readEntries parts seen record rest
      | some part =>
          if seen.contains name then none
          else do
            let record ← part.read value record
            readEntries parts (name :: seen) record rest

/-- **The record that a raw form stands for**, with the given contents where parts are missing. -/
def readRecord {Record : Type} (parts : List (RecordPart Record)) (record : Record) :
    Json.Raw → Option Record
  | .obj fields => readEntries parts [] record fields
  | .arr items => readItems parts record items
  | _ => none

end TracePlayer
