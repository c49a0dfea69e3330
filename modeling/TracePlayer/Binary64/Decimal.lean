/-
**Numbers given in decimals.**

Main definitions:

* `Binary64.parse?`: the double nearest to a decimal number; infinity and NaN have names;
* `parseInteger?`: a whole number with an optional sign.
-/
import TracePlayer.Binary64.Arithmetic

set_option autoImplicit false

namespace TracePlayer

/-! ### Whole numbers -/

/-- The number that decimal digits stand for; there is at least one digit, and nothing else. -/
def parseDigits? (digits : List Char) : Option Nat :=
  if !digits.isEmpty && digits.all Char.isDigit then
    some (digits.foldl (fun n c => n * 10 + (c.toNat - '0'.toNat)) 0)
  else none

/-- The sign in front of a number, and the rest. -/
def splitSign : List Char → Bool × List Char
  | '-' :: rest => (true, rest)
  | '+' :: rest => (false, rest)
  | text => (false, text)

/-- A whole number with an optional sign. -/
def parseInteger? (text : String) : Option Int :=
  let (negative, digits) := splitSign text.toList
  (parseDigits? digits).map fun n => if negative then -(n : Int) else n

namespace Binary64

/-! ### Decimal numbers -/

/-- The number of decimal places to which a decimal number can be told from zero or from infinity;
beyond it the digits do not matter. -/
def decimalLimit : Int := 400

/-- The double nearest to `± coefficient * 10 ^ exponent`, where the coefficient is given in
digits. -/
def ofDigits (negative : Bool) (digits : List Char) (exponent : Int) : Option Binary64 :=
  (parseDigits? digits).map fun coefficient =>
    let size : Int := (digits.dropWhile (· == '0')).length + exponent
    if coefficient = 0 ∨ size < -decimalLimit then .ofRank negative 0
    else if decimalLimit < size then .infinity negative
    else .ofScientific negative coefficient exponent

/-- The exponent after the letter for it, zero if there is none. -/
def parseExponent? : List Char → Option Int
  | [] => some 0
  | letter :: rest =>
      if letter = 'e' ∨ letter = 'E' then parseInteger? (String.ofList rest) else none

/-- A number without its sign: digits with an optional point among them and an optional
exponent. -/
def parseMagnitude? (negative : Bool) (text : List Char) : Option Binary64 :=
  let whole := text.takeWhile Char.isDigit
  let rest := text.dropWhile Char.isDigit
  let (fraction, rest) := match rest with
    | '.' :: rest => (rest.takeWhile Char.isDigit, rest.dropWhile Char.isDigit)
    | _ => ([], rest)
  (parseExponent? rest).bind fun exponent =>
    ofDigits negative (whole ++ fraction) (exponent - fraction.length)

/-- **The double nearest to a decimal number**, or one of the names of the other doubles in any
case. -/
def parse? (text : String) : Option Binary64 :=
  let (negative, rest) := splitSign text.toList
  let name := String.ofList (rest.map Char.toLower)
  if name = "nan" then some .nan
  else if name = "inf" ∨ name = "infinity" then some (.infinity negative)
  else parseMagnitude? negative rest

end Binary64

end TracePlayer
