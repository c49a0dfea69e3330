/-
**Reading JSON.**

The raw form of a text stands for a value unless a string holds half of a surrogate pair, a number
is too large for the format, or arrays and objects lie too deep inside each other.

Main definitions:

* `Json.unescape?`: the string that the parts of a raw string stand for;
* `Json.NumberText.number?`: the number that the digits stand for;
* `Json.Raw.value?`: the value of a raw form;
* `Json.parse?`: the value of a text.
-/
import TracePlayer.Json.Raw
import TracePlayer.Binary64.Arithmetic

set_option autoImplicit false

namespace TracePlayer

namespace Json

/-! ### Strings -/

/-- Joins the parts of a string; a high surrogate is followed by a low one, and neither stands
alone. -/
def unescapeParts : List StringPart → Option (List Char)
  | [] => some []
  | .char c :: rest => (unescapeParts rest).map (c :: ·)
  | .unit code :: rest =>
      if 0xD800 ≤ code ∧ code < 0xDC00 then
        match rest with
        | .unit low :: rest =>
            if 0xDC00 ≤ low ∧ low < 0xE000 then
              let c := Char.ofNat (0x10000 + (code - 0xD800) * 0x400 + (low - 0xDC00))
              (unescapeParts rest).map (c :: ·)
            else none
        | _ => none
      else if 0xDC00 ≤ code ∧ code < 0xE000 then none
      else (unescapeParts rest).map (Char.ofNat code :: ·)

/-- The string that the parts stand for. -/
def unescape? (parts : List StringPart) : Option String :=
  (unescapeParts parts).map String.ofList

/-! ### Numbers -/

/-- Appends digits to a significand as long as it fits into 64 bits, and gives the digits that are
left over. -/
def gatherDigits (significand : Nat) : List Nat → Nat × List Nat
  | [] => (significand, [])
  | digit :: rest =>
      if significand * 10 + digit < UInt64.size then gatherDigits (significand * 10 + digit) rest
      else (significand, digit :: rest)

/-- Multiplies by a power of ten in steps of at most `10 ^ 308`, each of them rounded; `none` when
the result is too large.  Two divisions bring every 64 bit significand down to zero, so that
`fuel` is no restriction. -/
def scaleByTen? : Nat → Binary64 → Int → Option Binary64
  | 0, x, _ => some x
  | fuel + 1, x, exponent =>
      if exponent.natAbs ≤ 308 then
        let power := Binary64.ofNat (Nat.pow 10 exponent.natAbs)
        if 0 ≤ exponent then
          let product := x.mul power
          if product.isFinite then some product else none
        else some (x.div power)
      else if x.same .zero then some x
      else if 0 ≤ exponent then none
      else scaleByTen? fuel (x.div (Binary64.ofNat (Nat.pow 10 308))) (exponent + 308)

/-- The natural number that digits stand for. -/
def digitsValue (digits : List Nat) : Nat := digits.foldl (fun n d => n * 10 + d) 0

/-- The number that the digits stand for.  A number without fraction and exponent stays whole if it
fits into 64 bits, `-0` excepted; of any other number the digits beyond a 64 bit significand count
only by their place. -/
def NumberText.number? (text : NumberText) : Option Number :=
  let (significand, dropped) := gatherDigits 0 text.whole
  if text.fraction.isEmpty && text.exponent.isNone && dropped.isEmpty then
    if !text.negative then some (.int significand)
    else if significand = 0 ∨ UInt64.size / 2 < significand then
      Number.ofBinary64? (Binary64.ofNat significand).neg
    else some (.int (-significand))
  else
    let (significand, ignored) := gatherDigits significand text.fraction
    let exponent : Int := dropped.length - (text.fraction.length - ignored.length : Nat)
    let exponent := match text.exponent with
      | none => exponent
      | some (false, digits) => exponent + digitsValue digits
      | some (true, digits) => exponent - digitsValue digits
    (scaleByTen? 4 (Binary64.ofNat significand) exponent).bind fun x =>
      Number.ofBinary64? (if text.negative then x.neg else x)

/-! ### Values -/

namespace Raw

mutual

/-- The value of a raw form whose arrays and objects lie at most `depth` deep. -/
def value? (depth : Nat) : Raw → Option Json
  | null => some .null
  | bool b => some (.bool b)
  | num text => text.number?.map .num
  | str parts => (unescape? parts).map .str
  | arr items =>
      if depth = 0 then none else (values? (depth - 1) items).map .arr
  | obj fields =>
      if depth = 0 then none
      else (pairs? (depth - 1) fields).map fun pairs => .obj (Bindings.ofPairs pairs).toList

/-- The values of the items of an array. -/
def values? (depth : Nat) : List Raw → Option (List Json)
  | [] => some []
  | item :: rest => do
      let value ← value? depth item
      let values ← values? depth rest
      return value :: values

/-- The names and values of the fields of an object, as they were written. -/
def pairs? (depth : Nat) : List (List StringPart × Raw) → Option (List (String × Json))
  | [] => some []
  | (name, item) :: rest => do
      let name ← unescape? name
      let value ← value? depth item
      let pairs ← pairs? depth rest
      return (name, value) :: pairs

end

end Raw

/-- How deep arrays and objects may lie inside each other. -/
def maxDepth : Nat := 127

/-- The value of a JSON text. -/
def parse? (text : String) : Option Json :=
  (Raw.read? text).bind (Raw.value? maxDepth)

end Json

end TracePlayer
