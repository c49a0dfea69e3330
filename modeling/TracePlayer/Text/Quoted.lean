/-
**Quoted text.**

Main definition:

* `quoted`: a text between double quotes in which every character can be read off.
-/
import TracePlayer.Text.Hidden

set_option autoImplicit false

namespace TracePlayer

/-- A character between quotes: the usual escapes, and the number of a character that is not shown
as itself. -/
def quotedChar (c : Char) : List Char :=
  if c = '"' then ['\\', '"']
  else if c = '\\' then ['\\', '\\']
  else if c = '\n' then ['\\', 'n']
  else if c = '\r' then ['\\', 'r']
  else if c = '\t' then ['\\', 't']
  else if c.toNat = 0 then ['\\', '0']
  else if isHidden c then ['\\', 'u', '\x7b'] ++ Nat.toDigits 16 c.toNat ++ ['\x7d']
  else [c]

/-- A text between double quotes in which every character can be read off. -/
def quoted (text : String) : String :=
  "\"" ++ String.ofList (text.toList.flatMap quotedChar) ++ "\""

end TracePlayer
