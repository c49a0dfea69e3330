/-
**JSON text as it is written.**

A text is first read into its raw form: strings are still sequences of characters and escapes,
numbers are still digits, and an object keeps every field that was written.  What the parts stand
for, and whether they stand for anything, is decided later and only where it matters.

Main definitions:

* `Json.Raw`: the raw form of a value;
* `Json.Raw.read?`: the raw form of a whole text, if it is a JSON text.
-/
import TracePlayer.Json.Value

set_option autoImplicit false

namespace TracePlayer

namespace Json

/-! ### Raw strings and numbers -/

/-- A part of a string between quotes. -/
inductive StringPart where
  /-- A character, written as itself or by a short escape. -/
  | char (c : Char)
  /-- A sixteen bit unit, written by four hexadecimal digits. -/
  | unit (code : Nat)

/-- A number in digits. -/
structure NumberText where
  /-- Whether a minus sign comes first. -/
  negative : Bool
  /-- The digits before the point; at least one. -/
  whole : List Nat
  /-- The digits after the point; none if there is no point. -/
  fraction : List Nat
  /-- Whether the exponent is negative, and its digits. -/
  exponent : Option (Bool × List Nat)

/-- The raw form of a JSON value. -/
inductive Raw where
  | null
  | bool (b : Bool)
  | num (text : NumberText)
  | str (parts : List StringPart)
  | arr (items : List Raw)
  | obj (fields : List (List StringPart × Raw))

instance : Inhabited Raw := ⟨.null⟩

namespace Raw

/-! ### Reading the parts -/

/-- Whether a character is a blank of a JSON text. -/
def isBlank (c : Char) : Bool := c = ' ' || c = '\n' || c = '\t' || c = '\r'

/-- The text from its first character that is not a blank. -/
def skipBlanks (cs : List Char) : List Char := cs.dropWhile isBlank

/-- The value of a hexadecimal digit. -/
def hexValue? (c : Char) : Option Nat :=
  if '0' ≤ c ∧ c ≤ '9' then some (c.toNat - '0'.toNat)
  else if 'a' ≤ c ∧ c ≤ 'f' then some (c.toNat - 'a'.toNat + 10)
  else if 'A' ≤ c ∧ c ≤ 'F' then some (c.toNat - 'A'.toNat + 10)
  else none

/-- The character that a short escape stands for. -/
def escaped? (c : Char) : Option Char :=
  if c = '"' ∨ c = '\\' ∨ c = '/' then some c
  else if c = 'b' then some (Char.ofNat 8)
  else if c = 'f' then some (Char.ofNat 12)
  else if c = 'n' then some '\n'
  else if c = 'r' then some '\r'
  else if c = 't' then some '\t'
  else none

/-- The unit written by four hexadecimal digits. -/
def unit? (a b c d : Char) : Option Nat := do
  let a ← hexValue? a
  let b ← hexValue? b
  let c ← hexValue? c
  let d ← hexValue? d
  return ((a * 16 + b) * 16 + c) * 16 + d

/-- Reads a string whose opening quote has been read, and gives the rest of the text. -/
def readString : List Char → Option (List StringPart × List Char)
  | [] => none
  | '"' :: rest => some ([], rest)
  | '\\' :: 'u' :: a :: b :: c :: d :: rest => do
      let code ← unit? a b c d
      let (parts, after) ← readString rest
      return (.unit code :: parts, after)
  | '\\' :: c :: rest => do
      let e ← escaped? c
      let (parts, after) ← readString rest
      return (.char e :: parts, after)
  | c :: rest =>
      if c.toNat < 32 ∨ c = '\\' then none
      else do
        let (parts, after) ← readString rest
        return (.char c :: parts, after)

/-- The digits at the front of a text, and the rest. -/
def readDigits (cs : List Char) : List Nat × List Char :=
  ((cs.takeWhile Char.isDigit).map (fun c => c.toNat - '0'.toNat), cs.dropWhile Char.isDigit)

/-- The digits after a point, if a point comes first; a point without digits is refused. -/
def readFraction : List Char → Option (List Nat × List Char)
  | '.' :: rest =>
      match readDigits rest with
      | ([], _) => none
      | (digits, after) => some (digits, after)
  | cs => some ([], cs)

/-- The sign of an exponent, and the rest. -/
def readSign : List Char → Bool × List Char
  | '-' :: rest => (true, rest)
  | '+' :: rest => (false, rest)
  | cs => (false, cs)

/-- The exponent, if a letter for it comes first; an exponent without digits is refused. -/
def readExponent : List Char → Option (Option (Bool × List Nat) × List Char)
  | c :: rest =>
      if c = 'e' ∨ c = 'E' then
        let (negative, rest) := readSign rest
        match readDigits rest with
        | ([], _) => none
        | (digits, after) => some (some (negative, digits), after)
      else some (none, c :: rest)
  | [] => some (none, [])

/-- The minus sign at the front of a number, and the rest. -/
def readMinus : List Char → Bool × List Char
  | '-' :: rest => (true, rest)
  | cs => (false, cs)

/-- Reads a number; a zero is not followed by further digits. -/
def readNumber (cs : List Char) : Option (NumberText × List Char) :=
  let (negative, cs) := readMinus cs
  match readDigits cs with
  | ([], _) => none
  | (0 :: _ :: _, _) => none
  | (whole, cs) => do
      let (fraction, cs) ← readFraction cs
      let (exponent, cs) ← readExponent cs
      return (⟨negative, whole, fraction, exponent⟩, cs)

/-! ### Reading values -/

mutual

/-- Reads a value and gives the rest of the text; `fuel` bounds the number of calls. -/
def readValue : Nat → List Char → Option (Raw × List Char)
  | 0, _ => none
  | fuel + 1, cs =>
      match skipBlanks cs with
      | '"' :: rest => do
          let (parts, after) ← readString rest
          return (.str parts, after)
      | '[' :: rest =>
          match skipBlanks rest with
          | ']' :: after => some (.arr [], after)
          | rest => do
              let (item, after) ← readValue fuel rest
              let (items, after) ← readItems fuel after
              return (.arr (item :: items), after)
      | '\x7b' :: rest =>
          match skipBlanks rest with
          | '\x7d' :: after => some (.obj [], after)
          | rest => do
              let (field, after) ← readField fuel rest
              let (fields, after) ← readFields fuel after
              return (.obj (field :: fields), after)
      | 'n' :: 'u' :: 'l' :: 'l' :: after => some (.null, after)
      | 't' :: 'r' :: 'u' :: 'e' :: after => some (.bool true, after)
      | 'f' :: 'a' :: 'l' :: 's' :: 'e' :: after => some (.bool false, after)
      | rest => do
          let (text, after) ← readNumber rest
          return (.num text, after)

/-- Reads what follows an item of an array, up to the closing bracket. -/
def readItems : Nat → List Char → Option (List Raw × List Char)
  | 0, _ => none
  | fuel + 1, cs =>
      match skipBlanks cs with
      | ']' :: after => some ([], after)
      | ',' :: rest => do
          let (item, after) ← readValue fuel rest
          let (items, after) ← readItems fuel after
          return (item :: items, after)
      | _ => none

/-- Reads a field of an object: a string, a colon and a value. -/
def readField : Nat → List Char → Option ((List StringPart × Raw) × List Char)
  | 0, _ => none
  | fuel + 1, cs =>
      match skipBlanks cs with
      | '"' :: rest => do
          let (name, after) ← readString rest
          match skipBlanks after with
          | ':' :: rest => do
              let (value, after) ← readValue fuel rest
              return ((name, value), after)
          | _ => none
      | _ => none

/-- Reads what follows a field of an object, up to the closing brace. -/
def readFields : Nat → List Char → Option (List (List StringPart × Raw) × List Char)
  | 0, _ => none
  | fuel + 1, cs =>
      match skipBlanks cs with
      | '\x7d' :: after => some ([], after)
      | ',' :: rest => do
          let (field, after) ← readField fuel rest
          let (fields, after) ← readFields fuel after
          return (field :: fields, after)
      | _ => none

end

/-- The raw form of a text that holds one value and nothing else.  Every call but the first
reads at least one character, so twice the length of the text is fuel enough. -/
def readDocument (cs : List Char) : Option Raw := do
  let (value, after) ← readValue (2 * cs.length + 2) cs
  if (skipBlanks after).isEmpty then return value else none

/-- The raw form of a text. -/
def read? (text : String) : Option Raw := readDocument text.toList

end Raw

end Json

end TracePlayer
