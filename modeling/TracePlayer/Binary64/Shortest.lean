/-
**The shortest decimal that reads back.**

Among the decimals that round to a given number, the ones with the fewest digits are found by
trying 1, 2, … 17 digits in exact arithmetic; of two decimals of that length the nearer one is
taken.

Main definitions:

* `Decimal`: a coefficient and a power of ten;
* `Binary64.shortest`: the shortest decimal of a rank;
* `DecimalLayout`, `DecimalLayout.render`: where positional notation ends and how the parts are
  joined.
-/
import TracePlayer.Binary64.Arithmetic

set_option autoImplicit false

namespace TracePlayer

/-- The number `coefficient * 10 ^ exponent`. -/
structure Decimal where
  /-- The digits, read as a natural number. -/
  coefficient : Nat
  /-- The power of ten of the last digit. -/
  exponent : Int
  deriving DecidableEq, Inhabited

/-- The number of decimal digits of a natural number, `1` for zero. -/
def digitCount (n : Nat) : Nat := (Nat.toDigits 10 n).length

/-- Which of two equally near decimals is taken. -/
inductive TieRule where
  /-- The one whose last digit is even. -/
  | toEven
  /-- The larger one. -/
  | up
  deriving DecidableEq

namespace Decimal

/-- The same number without the zeros at the end of its coefficient; at most `fuel` are taken
away. -/
def trim : Nat → Decimal → Decimal
  | 0, d => d
  | fuel + 1, d =>
      if d.coefficient ≠ 0 ∧ d.coefficient % 10 = 0 then
        trim fuel ⟨d.coefficient / 10, d.exponent + 1⟩
      else d

end Decimal

namespace Binary64

/-- The decimal exponent of the first digit of `num / den`, for a fraction above zero. -/
def floorLog10 (num den : Nat) : Int :=
  if den ≤ num then (digitCount (num / den) : Int) - 1
  else -(digitCount ((den + num - 1) / num - 1) : Int)

/-- The decimal with last place `10 ^ place` that lies nearest to the fraction `num / den`, if it
lies between the fractions `low / den` and `high / den`; `closed` tells whether the two ends
count. -/
def onGrid (tie : TieRule) (low num high den : Nat) (closed : Bool) (place : Int) :
    Option Decimal :=
  let factorNum := if place < 0 then Nat.pow 10 place.natAbs else 1
  let factorDen := if place < 0 then 1 else Nat.pow 10 place.natAbs
  let unit := den * factorDen
  let below := num * factorNum / unit
  let above := below + 1
  let inside (c : Nat) : Bool :=
    if closed then decide (low * factorNum ≤ c * unit ∧ c * unit ≤ high * factorNum)
    else decide (low * factorNum < c * unit ∧ c * unit < high * factorNum)
  let toBelow := num * factorNum - below * unit
  let toAbove := above * unit - num * factorNum
  let aboveIsNearer : Bool :=
    if toAbove < toBelow then true
    else if toBelow < toAbove then false
    else match tie with
      | .toEven => below % 2 == 1
      | .up => true
  if inside below && inside above then
    some ⟨if aboveIsNearer then above else below, place⟩
  else if inside below then some ⟨below, place⟩
  else if inside above then some ⟨above, place⟩
  else none

/-- The first hit among the grids with `digits`, `digits + 1`, … digits, `fuel` grids in all. -/
def firstGrid (tie : TieRule) (low num high den : Nat) (closed : Bool) (top : Int) :
    Nat → Nat → Decimal
  | 0, _ => default
  | fuel + 1, digits =>
      match onGrid tie low num high den closed (top - digits + 1) with
      | some d => d
      | none => firstGrid tie low num high den closed top fuel (digits + 1)

/-- **The shortest decimal that reads back** as the finite number of rank `rank`, the nearest one
among the shortest. -/
def shortest (tie : TieRule) (rank : Nat) : Decimal :=
  let (m, q) := scale rank
  let down := if m = blockSize ∧ rank ≠ blockSize then 1 else 2
  let (high, den) := shiftFraction (4 * m + 2) 1 (q - 2)
  let (num, _) := shiftFraction (4 * m) 1 (q - 2)
  let (low, _) := shiftFraction (4 * m - down) 1 (q - 2)
  if m = 0 then ⟨0, 0⟩
  else
    (firstGrid tie low num high den (m % 2 == 0) (floorLog10 num den) 18 1).trim 400

end Binary64

/-! ### Layout -/

/-- How a decimal is written. -/
structure DecimalLayout where
  /-- The exponents of the first digit that are written positionally; `none` stands for all. -/
  positional : Option (Int × Int)
  /-- Whether a whole number keeps `.0`. -/
  keepsPoint : Bool
  /-- The choice between two equally near decimals. -/
  tie : TieRule
  /-- The text of a value that is not a number. -/
  nan : String
  /-- The text of infinity, without its sign. -/
  infinity : String

namespace DecimalLayout

/-- Digits followed by as many zeros as the exponent asks for, or cut by a point. -/
def positionalText (layout : DecimalLayout) (d : Decimal) : String :=
  let digits := toString d.coefficient
  let whole := if layout.keepsPoint then ".0" else ""
  if 0 ≤ d.exponent then
    digits ++ String.ofList (List.replicate d.exponent.toNat '0') ++ whole
  else
    let places := d.exponent.natAbs
    let cs := digits.toList
    if places < cs.length then
      String.ofList (cs.take (cs.length - places)) ++ "."
        ++ String.ofList (cs.drop (cs.length - places))
    else
      "0." ++ String.ofList (List.replicate (places - cs.length) '0') ++ digits

/-- One digit, a point when more follow, and the exponent with its sign. -/
def scientificText (d : Decimal) : String :=
  let cs := (toString d.coefficient).toList
  let exponent : Int := d.exponent + cs.length - 1
  let mantissa := match cs with
    | [] => ""
    | [c] => String.ofList [c]
    | c :: rest => String.ofList (c :: '.' :: rest)
  mantissa ++ "e" ++ (if exponent < 0 then "-" else "+") ++ toString exponent.natAbs

/-- The text of a number. -/
def render (layout : DecimalLayout) : Binary64 → String
  | .nan => layout.nan
  | .number negative rank =>
      let sign := if negative then "-" else ""
      if rank.val = infinityRank then sign ++ layout.infinity
      else
        let d := Binary64.shortest layout.tie rank
        let first : Int := d.exponent + digitCount d.coefficient - 1
        let isPositional := match layout.positional with
          | none => true
          | some (low, high) => decide (low ≤ first ∧ first ≤ high)
        sign ++ if isPositional then layout.positionalText d else scientificText d

end DecimalLayout

end TracePlayer
