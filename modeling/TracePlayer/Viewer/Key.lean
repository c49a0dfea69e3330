/-
**Keys.**

Main definitions:

* `Action`: what a user can ask for;
* `Key`, `Modifiers`, `Combo`: a key press;
* `KeyMap`, `KeyMap.lookup`: which action a key press asks for;
* `KeyMap.standard`: the keys bound from the beginning.
-/

set_option autoImplicit false

namespace TracePlayer

/-- What a user can ask for. -/
inductive Action where
  | togglePlay
  | stepBack
  | stepForward
  | seekStart
  | seekEnd
  | speedUp
  | speedDown
  | restart
  | nextFrame
  | previousFrame
  | togglePin
  | help
  | quit
  | unknown
  deriving DecidableEq

/-- A key. -/
inductive Key where
  | char (c : Char)
  | left
  | right
  | up
  | down
  | home
  | endOfLine
  | pageUp
  | pageDown
  | tab
  | backTab
  | insert
  | delete
  | backspace
  | enter
  | escape
  | function (number : Nat)
  deriving DecidableEq

/-- The keys held down together with another one. -/
structure Modifiers where
  /-- The shift key. -/
  shift : Bool := false
  /-- The control key. -/
  control : Bool := false
  /-- The alternate key. -/
  alt : Bool := false
  deriving DecidableEq

/-- A key press. -/
structure Combo where
  /-- The key. -/
  key : Key
  /-- The keys held down with it. -/
  modifiers : Modifiers := {}
  deriving DecidableEq

/-- Which key presses ask for which actions; of two entries for one key press the first counts. -/
structure KeyMap where
  /-- The entries. -/
  entries : List (Combo × Action)

namespace KeyMap

/-- Binds a key press to an action. -/
def bind (keys : KeyMap) (combo : Combo) (action : Action) : KeyMap :=
  ⟨(combo, action) :: keys.entries⟩

/-- The action bound to a key press. -/
def find? (keys : KeyMap) (combo : Combo) : Option Action := keys.entries.lookup combo

/-- Whether a key press is a character typed with shift and nothing else. -/
def isShifted (combo : Combo) : Bool :=
  match combo.key with
  | .char _ => decide (combo.modifiers = { shift := true })
  | _ => false

/-- The action that a key press asks for.  A character typed with shift falls back to the binding
of the character alone, as not every terminal reports the shift key. -/
def lookup (keys : KeyMap) (combo : Combo) : Action :=
  match keys.find? combo with
  | some action => action
  | none =>
      if isShifted combo then (keys.find? ⟨combo.key, {}⟩).getD .unknown else .unknown

/-- The keys bound from the beginning. -/
def standard : KeyMap where
  entries := [
    (⟨.char ' ', {}⟩, .togglePlay), (⟨.char 'p', {}⟩, .togglePlay),
    (⟨.char 'r', {}⟩, .restart),
    (⟨.char '+', {}⟩, .speedUp), (⟨.char '=', {}⟩, .speedUp), (⟨.char '-', {}⟩, .speedDown),
    (⟨.left, {}⟩, .stepBack), (⟨.char 'h', {}⟩, .stepBack),
    (⟨.right, {}⟩, .stepForward), (⟨.char 'l', {}⟩, .stepForward),
    (⟨.home, {}⟩, .seekStart), (⟨.char 'g', {}⟩, .seekStart),
    (⟨.endOfLine, {}⟩, .seekEnd), (⟨.char 'G', {}⟩, .seekEnd),
    (⟨.down, {}⟩, .nextFrame), (⟨.char 'j', {}⟩, .nextFrame), (⟨.tab, {}⟩, .nextFrame),
    (⟨.up, {}⟩, .previousFrame), (⟨.char 'k', {}⟩, .previousFrame),
    (⟨.backTab, {}⟩, .previousFrame), (⟨.backTab, { shift := true }⟩, .previousFrame),
    (⟨.char 'f', {}⟩, .togglePin),
    (⟨.char '?', {}⟩, .help),
    (⟨.char 'q', {}⟩, .quit), (⟨.escape, {}⟩, .quit), (⟨.char 'c', { control := true }⟩, .quit)]

end KeyMap

end TracePlayer
