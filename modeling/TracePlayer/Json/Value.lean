/-
**JSON values.**

Main definitions:

* `Json`: a JSON value; whole numbers and double precision numbers are kept apart, and the fields
  of an object keep their order;
* `Json.same`: equality of values, in which the order of the fields of an object does not matter
  and numbers are compared as numbers.
-/
import TracePlayer.Bindings
import TracePlayer.Binary64.Basic

set_option autoImplicit false

namespace TracePlayer

/-- A number of a JSON value: a whole number, or a finite double precision one. -/
inductive Json.Number where
  /-- A whole number. -/
  | int (n : Int)
  /-- The finite double of a given sign and rank. -/
  | float (negative : Bool) (rank : Fin infinityRank)
  deriving DecidableEq

/-- A JSON value. -/
inductive Json where
  | null
  | bool (b : Bool)
  | num (n : Json.Number)
  | str (s : String)
  | arr (items : List Json)
  | obj (fields : List (String × Json))

namespace Json

instance : Inhabited Json := ⟨null⟩

/-- A natural number as a JSON value. -/
def ofNat (n : Nat) : Json := num (.int n)

/-- An integer as a JSON value. -/
def ofInt (n : Int) : Json := num (.int n)

/-- A finite double as a number, nothing for the others. -/
def Number.ofBinary64? : Binary64 → Option Number
  | .nan => none
  | .number negative rank =>
      if h : rank.val < infinityRank then some (.float negative ⟨rank.val, h⟩) else none

/-- The double that a number of the second kind holds. -/
def Number.double? : Number → Option Binary64
  | int _ => none
  | float negative rank => some (.number negative rank.castSucc)

/-- A double as a JSON value, `null` if it is not finite. -/
def ofBinary64 (x : Binary64) : Json :=
  match Number.ofBinary64? x with
  | some n => num n
  | none => null

/-- The value itself, or `null` for nothing. -/
def ofOption {α : Type} (f : α → Json) : Option α → Json
  | none => null
  | some a => f a

/-- The value of a field of an object. -/
def field? (name : String) : Json → Option Json
  | obj fields => fields.lookup name
  | _ => none

/-- Whether two numbers are equal; a whole number differs from every double precision number. -/
def Number.same : Number → Number → Bool
  | int m, int n => decide (m = n)
  | float negX rankX, float negY rankY =>
      if negX = negY then decide (rankX = rankY)
      else decide (rankX.val = 0) && decide (rankY.val = 0)
  | _, _ => false

/-- Whether every name of the second object is a name of the first. -/
def bindsAll (xs ys : List (String × Json)) : Bool :=
  ys.all fun field => (xs.lookup field.1).isSome

mutual

/-- Equality of values: objects are equal when they bind the same names to equal values. -/
def same : Json → Json → Bool
  | null, null => true
  | bool a, bool b => a == b
  | num a, num b => a.same b
  | str a, str b => a == b
  | arr xs, arr ys => sameItems xs ys
  | obj xs, obj ys => sameFields [] xs ys && bindsAll xs ys
  | _, _ => false

/-- Equality of lists of values, place by place. -/
def sameItems : List Json → List Json → Bool
  | [], [] => true
  | x :: xs, y :: ys => same x y && sameItems xs ys
  | _, _ => false

/-- Whether each of the fields is bound to an equal value in the other object.  A field whose name
was `seen` before is passed over: the first field of a name counts. -/
def sameFields (seen : List String) : List (String × Json) → List (String × Json) → Bool
  | [], _ => true
  | (name, x) :: xs, ys =>
      (seen.contains name || match ys.lookup name with
        | some y => same x y
        | none => false)
      && sameFields (name :: seen) xs ys

end

/-- Equality of optional values. -/
def sameOption : Option Json → Option Json → Bool
  | none, none => true
  | some x, some y => same x y
  | _, _ => false

/-- Equality of bindings: the same names with equal values, in any order. -/
def sameBindings (xs ys : Bindings Json) : Bool :=
  sameFields [] xs.toList ys.toList && bindsAll xs.toList ys.toList

end Json

end TracePlayer
