/-
**Arithmetic of double precision numbers.**

Each operation works on exact fractions and rounds once, to the nearest number of the format, a
fraction half way between two numbers going to the one of even rank.

Main definitions:

* `roundHalfEven`: a fraction rounded to a whole number;
* `Binary64.ofFraction`: the number nearest to a fraction;
* `Binary64.add`, `Binary64.sub`, `Binary64.mul`, `Binary64.div`: the operations of the format.
-/
import TracePlayer.Binary64.Basic

set_option autoImplicit false

namespace TracePlayer

/-- The whole number nearest to `num / den`; a half goes to the even neighbour. -/
def roundHalfEven (num den : Nat) : Nat :=
  let quotient := num / den
  let rest := num % den
  if 2 * rest < den then quotient
  else if den < 2 * rest then quotient + 1
  else quotient + quotient % 2

/-- A fraction times a power of two, again as a fraction. -/
def shiftFraction (num den : Nat) : Int → Nat × Nat
  | .ofNat k => (num <<< k, den)
  | .negSucc k => (num, den <<< (k + 1))

namespace Binary64

/-! ### Rounding -/

/-- The greatest `e` with `2 ^ e ≤ num / den`, for a fraction above zero. -/
def floorLog2 (num den : Nat) : Int :=
  let guess : Int := (Nat.log2 num : Int) - Nat.log2 den
  let (scaledNum, scaledDen) := shiftFraction num den (-guess)
  if scaledNum < scaledDen then guess - 1 else guess

/-- The rank of the number nearest to `num / den`; it may lie beyond infinity. -/
def rankOfFraction (num den : Nat) : Nat :=
  if num = 0 then 0
  else
    let q : Int := Max.max (floorLog2 num den - 52) (-1074)
    let (scaledNum, scaledDen) := shiftFraction num den (-q)
    (q + 1074).toNat * blockSize + roundHalfEven scaledNum scaledDen

/-- The number of a given sign nearest to `num / den`. -/
def ofFraction (negative : Bool) (num den : Nat) : Binary64 :=
  ofRank negative (rankOfFraction num den)

/-- The number nearest to a natural number. -/
def ofNat (n : Nat) : Binary64 := ofFraction false n 1

/-- The number nearest to an integer. -/
def ofInt (n : Int) : Binary64 := ofFraction (decide (n < 0)) n.natAbs 1

/-- The number nearest to `± coefficient * 10 ^ exponent`. -/
def ofScientific (negative : Bool) (coefficient : Nat) : Int → Binary64
  | .ofNat k => ofFraction negative (coefficient * Nat.pow 10 k) 1
  | .negSucc k => ofFraction negative coefficient (Nat.pow 10 (k + 1))

/-! ### Operations -/

/-- The fraction that a finite rank stands for. -/
def fraction (rank : Nat) : Nat × Nat :=
  let (m, q) := scale rank
  shiftFraction m 1 q

/-- Sum of two numbers. -/
def add : Binary64 → Binary64 → Binary64
  | nan, _ => nan
  | _, nan => nan
  | number negX rankX, number negY rankY =>
      if rankX.val = infinityRank then
        if rankY.val = infinityRank ∧ negX ≠ negY then nan else infinity negX
      else if rankY.val = infinityRank then infinity negY
      else
        let (numX, denX) := fraction rankX
        let (numY, denY) := fraction rankY
        let den := denX * denY
        if negX = negY then ofFraction negX (numX * denY + numY * denX) den
        else if numX * denY = numY * denX then zero
        else if numX * denY < numY * denX then
          ofFraction negY (numY * denX - numX * denY) den
        else ofFraction negX (numX * denY - numY * denX) den

/-- Difference of two numbers. -/
def sub (x y : Binary64) : Binary64 := x.add y.neg

/-- Product of two numbers. -/
def mul : Binary64 → Binary64 → Binary64
  | nan, _ => nan
  | _, nan => nan
  | number negX rankX, number negY rankY =>
      let negative := negX != negY
      if rankX.val = infinityRank then if rankY.val = 0 then nan else infinity negative
      else if rankY.val = infinityRank then if rankX.val = 0 then nan else infinity negative
      else
        let (numX, denX) := fraction rankX
        let (numY, denY) := fraction rankY
        ofFraction negative (numX * numY) (denX * denY)

/-- Quotient of two numbers. -/
def div : Binary64 → Binary64 → Binary64
  | nan, _ => nan
  | _, nan => nan
  | number negX rankX, number negY rankY =>
      let negative := negX != negY
      if rankX.val = infinityRank then
        if rankY.val = infinityRank then nan else infinity negative
      else if rankY.val = infinityRank then ofRank negative 0
      else if rankY.val = 0 then if rankX.val = 0 then nan else infinity negative
      else
        let (numX, denX) := fraction rankX
        let (numY, denY) := fraction rankY
        ofFraction negative (numX * denY) (denX * numY)

end Binary64

end TracePlayer
