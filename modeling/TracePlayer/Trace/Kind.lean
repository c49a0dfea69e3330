/-
**Kinds of events.**

Main definitions:

* `Kind`: what the program was doing at a step;
* `Kind.name`, `Kind.ofName`: the spelling of a kind; the case of ASCII letters is ignored when a
  kind is read, and a kind that is not known keeps its spelling.
-/

set_option autoImplicit false

namespace TracePlayer

/-- What the program was doing at a step. -/
inductive Kind where
  /-- A function was entered. -/
  | call
  /-- A source line is about to run. -/
  | line
  /-- A function returned. -/
  | ret
  /-- A line of input was read. -/
  | input
  /-- An exception was raised. -/
  | exception
  /-- Something else, as it was spelled. -/
  | other (name : String)
  deriving DecidableEq

namespace Kind

/-- The kinds with a meaning of their own. -/
def known : List Kind := [call, line, ret, input, exception]

/-- The spelling of a kind. -/
def name : Kind → String
  | call => "Call"
  | line => "Line"
  | ret => "Return"
  | input => "Input"
  | exception => "Exception"
  | other name => name

/-- A text with its ASCII letters in lower case. -/
def foldCase (text : String) : List Char := text.toList.map Char.toLower

/-- The kind that is spelled so, whatever the case of its ASCII letters. -/
def ofName (text : String) : Kind :=
  (known.find? fun kind => foldCase kind.name == foldCase text).getD (other text)

/-- Whether the kind has a meaning of its own. -/
def isKnown : Kind → Bool
  | other _ => false
  | _ => true

/-- Whether an event of this kind closes its frame. -/
def closesFrame : Kind → Bool
  | ret => true
  | _ => false

end Kind

end TracePlayer
