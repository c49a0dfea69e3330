/-
**JSON text.**

Main definitions:

* `Json.quote`: a string with its escapes, between double quotes;
* `Json.compress`: a value without any blank;
* `Json.pretty`: a value over several lines, two blanks for each level.
-/
import TracePlayer.Json.Value
import TracePlayer.Binary64.Shortest

set_option autoImplicit false

namespace TracePlayer

namespace Json

/-! ### Strings and numbers -/

/-- The lower-case hexadecimal digit of a number below sixteen. -/
def hexDigit (n : Nat) : Char := Nat.digitChar n

/-- A character inside a string: quotes, backslashes and control characters are escaped. -/
def escapeChar (c : Char) : List Char :=
  if c = '"' then ['\\', '"']
  else if c = '\\' then ['\\', '\\']
  else if c = '\n' then ['\\', 'n']
  else if c = '\r' then ['\\', 'r']
  else if c = '\t' then ['\\', 't']
  else if c.toNat = 8 then ['\\', 'b']
  else if c.toNat = 12 then ['\\', 'f']
  else if c.toNat < 32 then
    ['\\', 'u', '0', '0', hexDigit (c.toNat / 16), hexDigit (c.toNat % 16)]
  else [c]

/-- A string as it is written in a JSON text. -/
def quote (s : String) : String :=
  "\"" ++ String.ofList (s.toList.flatMap escapeChar) ++ "\""

/-- Doubles in a JSON text are written positionally from `1e-5` up to below `1e16`, and always
with a point or an exponent. -/
def floatLayout : DecimalLayout where
  positional := some (-5, 15)
  keepsPoint := true
  tie := .toEven
  nan := "null"
  infinity := "null"

/-- The text of a number. -/
def Number.render : Number → String
  | int n => toString n
  | float negative rank => floatLayout.render (.number negative rank.castSucc)

/-! ### Compact text -/

mutual

/-- A value without any blank between its parts. -/
def compress : Json → String
  | null => "null"
  | bool b => if b then "true" else "false"
  | num n => n.render
  | str s => quote s
  | arr [] => "[]"
  | arr (item :: rest) => "[" ++ compress item ++ compressItems rest ++ "]"
  | obj [] => "\x7b\x7d"
  | obj ((name, value) :: rest) =>
      "\x7b" ++ quote name ++ ":" ++ compress value ++ compressFields rest ++ "\x7d"

/-- Further items of an array, each after a comma. -/
def compressItems : List Json → String
  | [] => ""
  | item :: rest => "," ++ compress item ++ compressItems rest

/-- Further fields of an object, each after a comma. -/
def compressFields : List (String × Json) → String
  | [] => ""
  | (name, value) :: rest =>
      "," ++ quote name ++ ":" ++ compress value ++ compressFields rest

end

/-! ### Text over several lines -/

/-- A new line that begins with two blanks for each level. -/
def newline (level : Nat) : String :=
  "\n" ++ String.ofList (List.replicate (2 * level) ' ')

mutual

/-- A value over several lines, as the contents of level `level`. -/
def prettyAt (level : Nat) : Json → String
  | null => "null"
  | bool b => if b then "true" else "false"
  | num n => n.render
  | str s => quote s
  | arr [] => "[]"
  | arr (item :: rest) =>
      "[" ++ newline (level + 1) ++ prettyAt (level + 1) item ++ prettyItems (level + 1) rest
        ++ newline level ++ "]"
  | obj [] => "\x7b\x7d"
  | obj ((name, value) :: rest) =>
      "\x7b" ++ newline (level + 1) ++ quote name ++ ": " ++ prettyAt (level + 1) value
        ++ prettyFields (level + 1) rest ++ newline level ++ "\x7d"

/-- Further items of an array, each on its line. -/
def prettyItems (level : Nat) : List Json → String
  | [] => ""
  | item :: rest => "," ++ newline level ++ prettyAt level item ++ prettyItems level rest

/-- Further fields of an object, each on its line. -/
def prettyFields (level : Nat) : List (String × Json) → String
  | [] => ""
  | (name, value) :: rest =>
      "," ++ newline level ++ quote name ++ ": " ++ prettyAt level value
        ++ prettyFields level rest

end

/-- A value over several lines, two blanks for each level. -/
def pretty (value : Json) : String := prettyAt 0 value

end Json

end TracePlayer
