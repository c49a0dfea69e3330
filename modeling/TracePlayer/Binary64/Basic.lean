/-
**Double precision numbers by rank.**

The non-negative doubles, zero first and infinity last, are counted upwards; a number of the
format is a sign and such a rank, or it is not a number at all.  Comparing two numbers is then a
comparison of integers, and every question about order, zero, infinity and "not a number" is
decided without looking at a single digit.

Main definitions:

* `Binary64`: a sign and a rank, or `nan`;
* `Binary64.key`: the integer that orders the numbers (`-0` and `0` share one);
* `Binary64.le`, `Binary64.lt`, `Binary64.same`: the order of the format, false whenever one side
  is not a number;
* `Binary64.min`, `Binary64.max`: the lesser and the greater number, passing over an argument that
  is not a number;
* `Binary64.scale`: the mantissa and the power of two that a rank stands for.
-/

set_option autoImplicit false

namespace TracePlayer

/-- The rank of infinity: `2047` blocks of `2 ^ 52` finite numbers come before it. -/
abbrev infinityRank : Nat := 2047 <<< 52

/-- A double precision number. -/
inductive Binary64 where
  /-- The value that is not a number. -/
  | nan
  /-- The number with a given sign and a given place among the non-negative ones. -/
  | number (negative : Bool) (rank : Fin (infinityRank + 1))
  deriving DecidableEq

namespace Binary64

/-! ### Particular numbers -/

/-- Positive zero. -/
def zero : Binary64 := .number false 0

/-- Infinity of the given sign. -/
def infinity (negative : Bool) : Binary64 := .number negative (Fin.last infinityRank)

instance : Inhabited Binary64 := ⟨zero⟩

/-- The number of a given sign whose rank is `rank`, infinity when there is no such rank. -/
def ofRank (negative : Bool) (rank : Nat) : Binary64 :=
  if h : rank < infinityRank + 1 then .number negative ⟨rank, h⟩ else infinity negative

/-- The same number with the other sign. -/
def neg : Binary64 → Binary64
  | nan => nan
  | number negative rank => number (!negative) rank

/-! ### Order -/

/-- The place of a number among all numbers, counted from zero; both zeros are at `0`. -/
def key : Binary64 → Option Int
  | nan => none
  | number false rank => some (rank.val : Int)
  | number true rank => some (-(rank.val : Int))

/-- Whether the number is at most the other one. -/
def le (x y : Binary64) : Bool :=
  match x.key, y.key with
  | some a, some b => decide (a ≤ b)
  | _, _ => false

/-- Whether the number is smaller than the other one. -/
def lt (x y : Binary64) : Bool :=
  match x.key, y.key with
  | some a, some b => decide (a < b)
  | _, _ => false

/-- Whether both are the same number; nothing that is not a number is the same as anything. -/
def same (x y : Binary64) : Bool :=
  match x.key, y.key with
  | some a, some b => decide (a = b)
  | _, _ => false

/-- Whether the value is a number other than the two infinities. -/
def isFinite : Binary64 → Bool
  | nan => false
  | number _ rank => decide (rank.val < infinityRank)

/-- Whether the value is a number above zero. -/
def isPositive (x : Binary64) : Bool :=
  zero.lt x

/-- The lesser of two numbers; an argument that is not a number is passed over. -/
def min (x y : Binary64) : Binary64 :=
  match x, y with
  | nan, y => y
  | x, nan => x
  | x, y => if y.lt x then y else x

/-- The greater of two numbers; an argument that is not a number is passed over. -/
def max (x y : Binary64) : Binary64 :=
  match x, y with
  | nan, y => y
  | x, nan => x
  | x, y => if x.lt y then y else x

/-- A value that is no number is the only one without a key. -/
theorem key_eq_none_iff {x : Binary64} : x.key = none ↔ x = nan := by
  cases x with
  | nan => simp [key]
  | number negative rank => cases negative <;> simp [key]

/-! ### Exact values -/

/-- The numbers below this rank share the smallest power of two. -/
def blockSize : Nat := 1 <<< 52

/-- The mantissa `m` and the exponent `q` for which the finite number of rank `rank` is
`m * 2 ^ q`. -/
def scale (rank : Nat) : Nat × Int :=
  if rank < blockSize then (rank, -1074)
  else (blockSize + rank % blockSize, (rank / blockSize : Nat) - 1075)

end Binary64

end TracePlayer
