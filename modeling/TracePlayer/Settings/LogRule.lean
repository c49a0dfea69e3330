/-
**Rules of a log filter.**

A rule gives a level to what it names: `level`, `target`, `target=level`, or a target with a span
in square brackets and the fields of the span in braces before the level.  Only the level and
whether the rule compares values matter here.

Main definitions:

* `LogLevel`, `LogLevel.ofName?`: the levels and their names;
* `LogRule`, `LogRule.parse`: a rule, and how it is read from a text.
-/
import TracePlayer.Binary64.Decimal
import TracePlayer.Settings.LogPattern
import TracePlayer.Text.Alphanumeric
import TracePlayer.Text.Blank

set_option autoImplicit false

namespace TracePlayer

/-! ### Levels -/

/-- How much is logged. -/
inductive LogLevel where
  | off
  | error
  | warn
  | info
  | debug
  | trace
  deriving DecidableEq

namespace LogLevel

/-- The levels, the quietest one first. -/
def all : List LogLevel := [off, error, warn, info, debug, trace]

/-- The place of a level among them. -/
def rank (level : LogLevel) : Nat := all.idxOf level

/-- The name of a level. -/
def name : LogLevel → String
  | off => "off"
  | error => "error"
  | warn => "warn"
  | info => "info"
  | debug => "debug"
  | trace => "trace"

/-- The number in a text of digits, which may have a plus in front. -/
def numberOf? (text : String) : Option Nat :=
  match text.toList with
  | '+' :: digits => parseDigits? digits
  | digits => parseDigits? digits

/-- The level of a name in any case, or of its number. -/
def ofName? (text : String) : Option LogLevel :=
  all.find? fun level => level.name == text.map Char.toLower || numberOf? text == some level.rank

/-- The louder of two levels. -/
def louder (a b : LogLevel) : LogLevel := if a.rank < b.rank then b else a

end LogLevel

/-! ### Rules -/

/-- A rule of a filter, as far as it matters. -/
structure LogRule where
  /-- The level that it lets through. -/
  level : LogLevel
  /-- Whether it compares the value of a field. -/
  comparesValues : Bool
  deriving DecidableEq

/-- Why a rule cannot be used. -/
inductive LogRuleFault where
  /-- It is no rule. -/
  | malformed
  /-- It would be cut inside a character. -/
  | cutInside
  deriving DecidableEq

namespace LogRule

/-- The pieces of a text between the separators in it. -/
def pieces (separator : Char) : List Char → List (List Char)
  | [] => [[]]
  | c :: rest =>
      if c = separator then [] :: pieces separator rest
      else match pieces separator rest with
        | [] => [[c]]
        | piece :: more => (c :: piece) :: more

/-- The characters after a number of bytes. -/
def dropBytes? : Nat → List Char → Option (List Char)
  | 0, text => some text
  | _ + 1, [] => none
  | count + 1, c :: rest =>
      if c.utf8Size ≤ count + 1 then dropBytes? (count + 1 - c.utf8Size) rest else none

/-- The characters that make up a number of bytes. -/
def takeBytes? : Nat → List Char → Option (List Char)
  | 0, _ => some []
  | _ + 1, [] => none
  | count + 1, c :: rest =>
      if c.utf8Size ≤ count + 1 then (takeBytes? (count + 1 - c.utf8Size) rest).map (c :: ·)
      else none

/-- The part of a rule between two places, counted in bytes. -/
def part (rule : List Char) (start stop : Nat) : Except LogRuleFault String :=
  match (dropBytes? start rule).bind (takeBytes? (stop - start)) with
  | some text => .ok (String.ofList text)
  | none => .error .cutInside

/-- The part of a rule from a place on. -/
def partFrom (rule : List Char) (start : Nat) : Except LogRuleFault String :=
  match dropBytes? start rule with
  | some text => .ok (String.ofList text)
  | none => .error .cutInside

/-- How far a rule has been read; the numbers are places where a part began. -/
inductive Stage where
  | start
  | target (start : Nat)
  | span (start : Nat)
  | field (start : Nat)
  | fields
  | spanEnd
  | level (start : Nat)
  deriving DecidableEq

/-- Whether a field compares its value; the value has to be a number or a pattern. -/
def readField (field : String) : Except LogRuleFault Bool :=
  if field.isEmpty then .error .malformed
  else match pieces '=' field.toList with
    | _ :: value :: _ =>
        let value := String.ofList value
        if (Binary64.parse? value).isSome || isLogPattern value then .ok true
        else .error .malformed
    | _ => .ok false

/-- Takes the next character of a rule, which stands at a place.  A part that ends here is cut from
the rule; the result also says whether a field compares its value. -/
def step (rule : List Char) (stage : Stage) (place : Nat) (c : Char) :
    Except LogRuleFault (Stage × Bool) := do
  match stage with
  | .start =>
      if c = '[' then return (.span (place + 1), false)
      if c = '-' || c = ':' || c = '_' || isAlphanumericChar c then return (.target place, false)
      throw .malformed
  | .target start =>
      if c = '=' then
        let _ ← part rule start place
        return (.level (place + 1), false)
      if c = '[' then
        let _ ← part rule start place
        return (.span (place + 1), false)
      return (.target start, false)
  | .span start =>
      if c = ']' then
        let _ ← part rule start place
        return (.spanEnd, false)
      if c = '\x7b' then
        let _ ← part rule start place
        return (.field (place + 1), false)
      return (.span start, false)
  | .field start =>
      if c = '\x7d' then
        let field ← part rule start place
        return (.fields, ← readField field)
      return (.field start, false)
  | .fields => if c = ']' then return (.spanEnd, false) else throw .malformed
  | .spanEnd => if c = '=' then return (.level (place + 1), false) else throw .malformed
  | .level start => return (.level start, false)

/-- The level of a rule that has been read to its end.  A target or a level that is left out lets
everything through. -/
def finish (rule : List Char) : Stage → Except LogRuleFault LogLevel
  | .target start => do
      let text ← partFrom rule start
      return (LogLevel.ofName? text).getD .trace
  | .level start => do
      let text ← partFrom rule start
      if text.isEmpty then return .trace
      match LogLevel.ofName? text with
      | some level => return level
      | none => throw .malformed
  | .spanEnd => .ok .trace
  | _ => .error .malformed

/-- Reads the characters of a rule from a place on. -/
def readFrom (rule : List Char) (stage : Stage) (compares : Bool) (place : Nat) :
    List Char → Except LogRuleFault LogRule
  | [] => do
      let level ← finish rule stage
      return ⟨level, compares⟩
  | c :: rest => do
      let (stage, more) ← step rule stage place c
      readFrom rule stage (compares || more) (place + c.utf8Size) rest

/-- **Reads a rule.**  The places of its parts are counted without the blanks around it, but the
parts are cut from the rule as it stands. -/
def parse (rule : List Char) : Except LogRuleFault LogRule :=
  readFrom rule .start false 0 (trimBlanks (String.ofList rule)).toList

end LogRule

end TracePlayer
