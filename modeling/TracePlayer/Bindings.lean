/-
**Ordered bindings.**

Named values in a fixed order, every name bound once.  Binding a name again replaces its value and
keeps its place; a new name goes to the end.  Local variables and extension fields are such
bindings.

Main definitions:

* `Bindings`: distinct names with their values, in order;
* `Bindings.find?`: the value of a name;
* `Bindings.insert`, `Bindings.overlay`: one binding, or a list of them, made on top of others;
* `Bindings.ofPairs`: the bindings that remain when pairs are bound one after the other.

Main results:

* `Bindings.find?_insert`: a binding changes its own name and no other;
* `Bindings.names_insert`: a bound name keeps its place, a new one goes to the end.
-/

set_option autoImplicit false

namespace TracePlayer

/-- Distinct names with their values, in order. -/
@[ext] structure Bindings (α : Type) where
  /-- The names and values. -/
  toList : List (String × α)
  /-- No name is bound twice. -/
  nodup : (toList.map Prod.fst).Nodup

namespace Bindings

variable {α : Type}

/-! ### One binding in a list of pairs -/

/-- Binds a name in a list of pairs: in its place if it occurs, at the end otherwise. -/
def insertPair (name : String) (value : α) : List (String × α) → List (String × α)
  | [] => [(name, value)]
  | (key, old) :: rest =>
      if key = name then (key, value) :: rest else (key, old) :: insertPair name value rest

theorem names_insertPair (name : String) (value : α) (pairs : List (String × α)) :
    (insertPair name value pairs).map Prod.fst
      = if name ∈ pairs.map Prod.fst then pairs.map Prod.fst
        else pairs.map Prod.fst ++ [name] := by
  induction pairs with
  | nil => simp [insertPair]
  | cons pair rest ih =>
      by_cases h : pair.1 = name
      · simp [insertPair, h]
      · have h' : ¬ name = pair.1 := fun e => h e.symm
        simp only [insertPair, h, if_false, List.map_cons, ih, List.mem_cons, h', false_or]
        split <;> simp

theorem nodup_insertPair (name : String) (value : α) {pairs : List (String × α)}
    (h : (pairs.map Prod.fst).Nodup) : ((insertPair name value pairs).map Prod.fst).Nodup := by
  rw [names_insertPair]
  split
  · exact h
  · next hn =>
      refine List.nodup_append.2 ⟨h, by simp, ?_⟩
      intro a ha b hb
      rw [List.mem_singleton.1 hb]
      exact fun e => hn (e ▸ ha)

theorem lookup_cons_eq (other : String) (pair : String × α) (rest : List (String × α)) :
    (pair :: rest).lookup other = if other = pair.1 then some pair.2 else rest.lookup other := by
  rw [List.lookup_cons]
  by_cases h : other = pair.1
  · rw [if_pos h, h, beq_self_eq_true]
  · rw [if_neg h, beq_false_of_ne h]

theorem lookup_insertPair (name other : String) (value : α) (pairs : List (String × α)) :
    (insertPair name value pairs).lookup other
      = if other = name then some value else pairs.lookup other := by
  induction pairs with
  | nil => simp [insertPair, lookup_cons_eq]
  | cons pair rest ih =>
      simp only [insertPair, lookup_cons_eq]
      split <;> simp_all [lookup_cons_eq]
      split <;> simp_all

/-! ### Operations -/

/-- No bindings. -/
def empty : Bindings α := ⟨[], List.nodup_nil⟩

instance : Inhabited (Bindings α) := ⟨empty⟩

/-- The names, in order. -/
def names (bindings : Bindings α) : List String := bindings.toList.map Prod.fst

/-- The number of names. -/
def size (bindings : Bindings α) : Nat := bindings.toList.length

/-- The value of a name. -/
def find? (bindings : Bindings α) (name : String) : Option α := bindings.toList.lookup name

/-- Whether a name is bound. -/
def contains (bindings : Bindings α) (name : String) : Bool := (bindings.find? name).isSome

/-- Binds a name: in its place if it is bound already, at the end otherwise. -/
def insert (bindings : Bindings α) (name : String) (value : α) : Bindings α :=
  ⟨insertPair name value bindings.toList, nodup_insertPair name value bindings.nodup⟩

/-- Binds each of the pairs, in order. -/
def overlay (bindings : Bindings α) (pairs : List (String × α)) : Bindings α :=
  pairs.foldl (fun acc pair => acc.insert pair.1 pair.2) bindings

/-- The bindings left by binding each of the pairs, in order. -/
def ofPairs (pairs : List (String × α)) : Bindings α := empty.overlay pairs

/-! ### What one binding changes -/

@[simp] theorem find?_empty (name : String) : (empty : Bindings α).find? name = none := rfl

/-- A binding changes its own name and no other. -/
theorem find?_insert (bindings : Bindings α) (name other : String) (value : α) :
    (bindings.insert name value).find? other
      = if other = name then some value else bindings.find? other :=
  lookup_insertPair name other value bindings.toList

/-- A bound name keeps its place, a new one goes to the end. -/
theorem names_insert (bindings : Bindings α) (name : String) (value : α) :
    (bindings.insert name value).names
      = if name ∈ bindings.names then bindings.names else bindings.names ++ [name] :=
  names_insertPair name value bindings.toList

@[simp] theorem overlay_nil (bindings : Bindings α) : bindings.overlay [] = bindings := rfl

@[simp] theorem overlay_cons (bindings : Bindings α) (pair : String × α)
    (pairs : List (String × α)) :
    bindings.overlay (pair :: pairs) = (bindings.insert pair.1 pair.2).overlay pairs := rfl

theorem overlay_append (bindings : Bindings α) (first second : List (String × α)) :
    bindings.overlay (first ++ second) = (bindings.overlay first).overlay second := by
  simp [overlay, List.foldl_append]

end Bindings

end TracePlayer
