/-
**Sets of characters as ranges of code points.**

Main definition:

* `inRanges`: whether a character lies in one of some ranges.
-/

set_option autoImplicit false

namespace TracePlayer

/-- Whether a character lies in one of some ranges; both ends belong to a range. -/
def inRanges (ranges : List (Nat × Nat)) (c : Char) : Bool :=
  ranges.any fun range => decide (range.1 ≤ c.toNat) && decide (c.toNat ≤ range.2)

end TracePlayer
