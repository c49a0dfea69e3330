/-
**Objects, name by name.**

Whether two objects are equal is a question about each name by itself: it is bound to equal values
in both, or bound in neither.  So objects can be compared part by part, as long as the names tell
the parts from each other.

Main results:

* `Json.same_obj_iff_lookup`: what the comparison of two objects decides, as one statement per name;
* `Json.same_obj_append_iff`, `Json.same_obj_cons_iff`: **objects in two parts** are equal part by
  part;
* `Json.same_ofOption`: a missing value, written as `null`, is told from any other one if no value
  is written as `null`;
* `Json.sameOption_map_iff_rel`: optional values are written as equal ones if they are related.
-/
import TracePlayer.Proofs.Json.Same

set_option autoImplicit false

namespace TracePlayer.Json

/-! ### Objects, name by name -/

/-- Two objects are equal when they bind every name to equal values, or both bind it to none. -/
theorem same_obj_iff_lookup {xs ys : List (String × Json)} :
    same (obj xs) (obj ys) = true ↔
      ∀ name, sameOption (xs.lookup name) (ys.lookup name) = true := by
  rw [same_obj_iff]
  constructor
  · rintro ⟨hvalues, hnames⟩ name
    cases hx : xs.lookup name with
    | some x =>
        obtain ⟨y, hy, hsame⟩ := hvalues name x hx
        rwa [hy]
    | none =>
        cases hy : ys.lookup name with
        | none => rfl
        | some y =>
            obtain ⟨x, hx'⟩ := hnames name y hy
            cases hx.symm.trans hx'
  · refine fun h => ⟨fun name x hx => ?_, fun name y hy => ?_⟩
    · have hname := h name
      rw [hx] at hname
      cases hy : ys.lookup name with
      | some y => exact ⟨y, rfl, by rwa [hy] at hname⟩
      | none => simp [hy, sameOption] at hname
    · have hname := h name
      rw [hy] at hname
      cases hx : xs.lookup name with
      | some x => exact ⟨x, rfl⟩
      | none => simp [hx, sameOption] at hname

/-- So are bindings. -/
theorem sameBindings_iff {xs ys : Bindings Json} :
    sameBindings xs ys = true ↔ ∀ name, sameOption (xs.find? name) (ys.find? name) = true := by
  have hobj : same (obj xs.toList) (obj ys.toList) = sameBindings xs ys := by
    simp only [same, sameBindings]
  rw [← hobj]
  exact same_obj_iff_lookup

/-- A name is not bound by fields whose names all have a property that it does not have. -/
theorem lookup_eq_none_of_forall {p : String → Prop} {fields : List (String × Json)}
    (h : ∀ field ∈ fields, p field.1) {name : String} (hname : ¬ p name) :
    fields.lookup name = none := by
  refine List.lookup_eq_none_iff.2 fun field hfield => ?_
  have hne : name ≠ field.1 := fun e => hname (e ▸ h field hfield)
  simpa using hne

/-- **Objects in two parts** are equal part by part, if a property of the names tells the first
parts from the second ones. -/
theorem same_obj_append_iff {xs ys us vs : List (String × Json)} (p : String → Prop)
    (hxs : ∀ field ∈ xs, p field.1) (hys : ∀ field ∈ ys, p field.1)
    (hus : ∀ field ∈ us, ¬ p field.1) (hvs : ∀ field ∈ vs, ¬ p field.1) :
    same (obj (xs ++ us)) (obj (ys ++ vs)) = true ↔
      same (obj xs) (obj ys) = true ∧ same (obj us) (obj vs) = true := by
  have hfirst : ∀ name, p name → (xs ++ us).lookup name = xs.lookup name ∧
      (ys ++ vs).lookup name = ys.lookup name ∧ us.lookup name = none ∧ vs.lookup name = none := by
    intro name hname
    have hu := lookup_eq_none_of_forall (p := (¬ p ·)) hus (not_not_intro hname)
    have hv := lookup_eq_none_of_forall (p := (¬ p ·)) hvs (not_not_intro hname)
    simp [List.lookup_append, hu, hv]
  have hsecond : ∀ name, ¬ p name → (xs ++ us).lookup name = us.lookup name ∧
      (ys ++ vs).lookup name = vs.lookup name ∧ xs.lookup name = none ∧ ys.lookup name = none := by
    intro name hname
    have hx := lookup_eq_none_of_forall hxs hname
    have hy := lookup_eq_none_of_forall hys hname
    simp [List.lookup_append, hx, hy]
  simp only [same_obj_iff_lookup, ← forall_and]
  refine forall_congr' fun name => ?_
  by_cases hname : p name
  · obtain ⟨hxu, hyv, hu, hv⟩ := hfirst name hname
    rw [hxu, hyv, hu, hv]
    exact (and_iff_left rfl).symm
  · obtain ⟨hxu, hyv, hx, hy⟩ := hsecond name hname
    rw [hxu, hyv, hx, hy]
    exact (and_iff_right rfl).symm

/-- A field that comes first in both objects and is in neither of the rests. -/
theorem same_obj_cons_iff {name : String} {x y : Json} {xs ys : List (String × Json)}
    (hxs : ∀ field ∈ xs, field.1 ≠ name) (hys : ∀ field ∈ ys, field.1 ≠ name) :
    same (obj ((name, x) :: xs)) (obj ((name, y) :: ys)) = true ↔
      same x y = true ∧ same (obj xs) (obj ys) = true := by
  have hparts : same (obj ([(name, x)] ++ xs)) (obj ([(name, y)] ++ ys)) = true ↔
      same (obj [(name, x)]) (obj [(name, y)]) = true ∧ same (obj xs) (obj ys) = true :=
    same_obj_append_iff (· = name) (by simp) (by simp) hxs hys
  refine hparts.trans (and_congr_left fun _ => ?_)
  simp [same, sameFields, bindsAll]

@[simp] theorem same_str_iff {s t : String} : same (str s) (str t) = true ↔ s = t := by
  simp [same]

@[simp] theorem same_bool_iff {a b : Bool} : same (bool a) (bool b) = true ↔ a = b := by
  simp [same]

@[simp] theorem same_ofNat_iff {m n : Nat} : same (ofNat m) (ofNat n) = true ↔ m = n := by
  simp only [ofNat, same, Number.same, decide_eq_true_eq]
  exact Int.natCast_inj

/-! ### Optional values -/

section

variable {α : Type} {write : α → Json} {a b : Option α}

/-- Optional values are compared as they are if no value is written as `null`. -/
theorem same_ofOption (hnull : ∀ a, write a ≠ null) (a b : Option α) :
    same (ofOption write a) (ofOption write b) = sameOption (a.map write) (b.map write) := by
  cases a with
  | none =>
      cases b with
      | none => rfl
      | some b => cases hb : write b <;> simp_all [ofOption, same, sameOption]
  | some a =>
      cases b with
      | none => cases ha : write a <;> simp_all [ofOption, same, sameOption]
      | some b => rfl

/-- A value that is left out if there is none, and never written as `null`. -/
theorem sameOption_map_ofOption (write : α → Json) (a b : Option α) :
    sameOption ((a.map some).map (ofOption write)) ((b.map some).map (ofOption write)) =
      sameOption (a.map write) (b.map write) := by
  cases a <;> cases b <;> rfl

/-- Optional values are written as equal ones if they are related, when this holds of values. -/
theorem sameOption_map_iff_rel {related : α → α → Prop}
    (h : ∀ x ∈ a, ∀ y ∈ b, same (write x) (write y) = true ↔ related x y) :
    sameOption (a.map write) (b.map write) = true ↔ Option.Rel related a b := by
  cases a with
  | none =>
      cases b with
      | none => exact iff_of_true rfl .none
      | some y => exact iff_of_false Bool.false_ne_true nofun
  | some x =>
      cases b with
      | none => exact iff_of_false Bool.false_ne_true nofun
      | some y => exact (h x rfl y rfl).trans ⟨.some, fun hrel => by cases hrel; assumption⟩

/-- Optional values are written as equal ones if they are equal, when this holds of values. -/
theorem sameOption_map_iff (h : ∀ {a b}, same (write a) (write b) = true ↔ a = b) :
    sameOption (a.map write) (b.map write) = true ↔ a = b := by
  cases a <;> cases b <;> simp [sameOption, h]

end

end TracePlayer.Json
