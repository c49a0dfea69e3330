/-
**Equality of JSON values is an equivalence.**

An object may bind a name more than once as far as its type goes; the first field of a name is the
one that counts, and equality of objects is a statement about what each name is bound to.

Main results:

* `Json.ind`: induction over a value, through the items and the fields inside it;
* `Json.sameFields_eq_true_iff`, `Json.same_obj_iff`: what the comparison of two lists of fields,
  and of two objects, decides;
* `Json.same_refl`, `Json.same_symm`, `Json.same_trans`: equality of values is an equivalence, and
  so is that of optional values.
-/
import TracePlayer.Json.Value

set_option autoImplicit false

namespace TracePlayer.Json

/-! ### Induction -/

/-- Induction over a value, through the items and the fields inside it. -/
theorem ind {motive : Json → Prop} (null : motive null) (bool : ∀ b, motive (bool b))
    (num : ∀ n, motive (num n)) (str : ∀ s, motive (str s))
    (arr : ∀ items : List Json, (∀ x ∈ items, motive x) → motive (arr items))
    (obj : ∀ fields : List (String × Json), (∀ field ∈ fields, motive field.2) →
      motive (obj fields)) (x : Json) : motive x := by
  refine @Json.rec motive (fun items => ∀ x ∈ items, motive x)
    (fun fields => ∀ field ∈ fields, motive field.2) (fun field => motive field.2)
    null bool num str arr obj ?_ ?_ ?_ ?_ ?_ x
  · simp
  · intro item rest hitem hrest x hx
    rcases List.mem_cons.1 hx with rfl | hx
    · exact hitem
    · exact hrest x hx
  · simp
  · intro field rest hfield hrest x hx
    rcases List.mem_cons.1 hx with rfl | hx
    · exact hfield
    · exact hrest x hx
  · exact fun _ _ hvalue => hvalue

/-! ### Fields -/

/-- A name that is bound in a list of fields is bound to the value of one of them. -/
theorem mem_of_lookup {name : String} {x : Json} {fields : List (String × Json)}
    (h : fields.lookup name = some x) : (name, x) ∈ fields := by
  induction fields with
  | nil => simp at h
  | cons field rest ih =>
      rw [Bindings.lookup_cons_eq] at h
      split at h
      · next e =>
          rw [e, ← Option.some_inj.1 h]
          exact List.mem_cons_self
      · exact List.mem_cons_of_mem _ (ih h)

/-- The comparison of two lists of fields: every name that was not seen before and is bound in the
first is bound to an equal value in the second. -/
theorem sameFields_eq_true_iff (seen : List String) (xs ys : List (String × Json)) :
    sameFields seen xs ys = true ↔
      ∀ name, name ∉ seen → ∀ x, xs.lookup name = some x →
        ∃ y, ys.lookup name = some y ∧ same x y = true := by
  induction xs generalizing seen with
  | nil => simp [sameFields]
  | cons field rest ih =>
      obtain ⟨first, value⟩ := field
      simp only [sameFields, Bool.and_eq_true, Bool.or_eq_true, List.contains_iff_mem, ih,
        List.mem_cons, not_or, Bindings.lookup_cons_eq]
      constructor
      · rintro ⟨hfirst, hrest⟩ name hname x hx
        split at hx
        · next e =>
            subst e
            rcases hfirst with hseen | hsame
            · exact absurd hseen hname
            · split at hsame
              · next y hy => exact ⟨y, hy, Option.some_inj.1 hx ▸ hsame⟩
              · simp at hsame
        · next e => exact hrest name ⟨e, hname⟩ x hx
      · intro h
        refine ⟨?_, fun name hname x hx => h name hname.2 x (by rw [if_neg hname.1]; exact hx)⟩
        by_cases hseen : first ∈ seen
        · exact .inl hseen
        · obtain ⟨y, hy, hsame⟩ := h first hseen value (if_pos rfl)
          exact .inr (by rw [hy]; exact hsame)

theorem bindsAll_eq_true_iff (xs ys : List (String × Json)) :
    bindsAll xs ys = true ↔ ∀ name y, ys.lookup name = some y → ∃ x, xs.lookup name = some x := by
  simp only [bindsAll, List.all_eq_true, Option.isSome_iff_exists]
  constructor
  · intro h name y hy
    exact h (name, y) (mem_of_lookup hy)
  · intro h field hfield
    cases hy : ys.lookup field.1 with
    | some y => exact h field.1 y hy
    | none => simpa using List.lookup_eq_none_iff.1 hy field hfield

/-- Two objects are equal when they bind the same names, each to equal values. -/
theorem same_obj_iff {xs ys : List (String × Json)} :
    same (obj xs) (obj ys) = true ↔
      (∀ name x, xs.lookup name = some x → ∃ y, ys.lookup name = some y ∧ same x y = true) ∧
        ∀ name y, ys.lookup name = some y → ∃ x, xs.lookup name = some x := by
  rw [same, Bool.and_eq_true, sameFields_eq_true_iff, bindsAll_eq_true_iff]
  exact and_congr_left fun _ => forall_congr' fun name => by simp

/-! ### Reflexivity -/

theorem sameItems_refl {items : List Json} (h : ∀ x ∈ items, same x x = true) :
    sameItems items items = true := by
  induction items with
  | nil => rfl
  | cons item rest ih =>
      simp only [sameItems, Bool.and_eq_true]
      exact ⟨h item List.mem_cons_self, ih fun x hx => h x (List.mem_cons_of_mem _ hx)⟩

theorem Number.same_refl (n : Number) : n.same n = true := by
  cases n <;> simp [Number.same]

/-- **Every value equals itself.** -/
@[simp] theorem same_refl (x : Json) : same x x = true := by
  induction x using ind with
  | null => rfl
  | bool b => simp [same]
  | num n => simp [same, Number.same_refl]
  | str s => simp [same]
  | arr items ih => simpa only [same] using sameItems_refl ih
  | obj fields ih =>
      refine same_obj_iff.2 ⟨fun name x hx => ?_, fun _ x hx => ⟨x, hx⟩⟩
      exact ⟨x, hx, ih (name, x) (mem_of_lookup hx)⟩

/-- An optional value equals itself. -/
@[simp] theorem sameOption_refl (x : Option Json) : sameOption x x = true := by
  cases x <;> simp [sameOption]

/-! ### Symmetry -/

theorem sameItems_symm {xs ys : List Json}
    (h : ∀ x ∈ xs, ∀ y, same x y = true → same y x = true) (hsame : sameItems xs ys = true) :
    sameItems ys xs = true := by
  induction xs generalizing ys with
  | nil =>
      cases ys with
      | nil => rfl
      | cons y rest => simp [sameItems] at hsame
  | cons x xs ih =>
      cases ys with
      | nil => simp [sameItems] at hsame
      | cons y ys =>
          simp only [sameItems, Bool.and_eq_true] at hsame ⊢
          obtain ⟨hfirst, hrest⟩ := hsame
          exact ⟨h x List.mem_cons_self y hfirst,
            ih (fun z hz => h z (List.mem_cons_of_mem _ hz)) hrest⟩

/-- Two floats are equal when they are the same one, or when both are zero. -/
theorem Number.same_float_iff {negX negY : Bool} {rankX rankY : Fin infinityRank} :
    (float negX rankX).same (float negY rankY) = true ↔
      (negX = negY ∧ rankX = rankY) ∨ (rankX.val = 0 ∧ rankY.val = 0) := by
  by_cases hsign : negX = negY
  · have hzero : rankX.val = 0 ∧ rankY.val = 0 → rankX = rankY := fun ⟨hx, hy⟩ =>
      Fin.ext (hx.trans hy.symm)
    rw [Number.same, if_pos hsign, decide_eq_true_eq, eq_true hsign, true_and]
    exact (or_iff_left_of_imp hzero).symm
  · simp [Number.same, hsign]

theorem Number.same_symm {m n : Number} (h : m.same n = true) : n.same m = true := by
  cases m with
  | int m =>
      cases n with
      | int n => simpa [Number.same, eq_comm] using h
      | float _ _ => cases h
  | float negX rankX =>
      cases n with
      | int n => cases h
      | float negY rankY =>
          rcases same_float_iff.1 h with ⟨hsign, hrank⟩ | ⟨hx, hy⟩
          · exact same_float_iff.2 (.inl ⟨hsign.symm, hrank.symm⟩)
          · exact same_float_iff.2 (.inr ⟨hy, hx⟩)

/-- Equality of values does not depend on which of them comes first. -/
theorem same_symm {x y : Json} (h : same x y = true) : same y x = true := by
  induction x using ind generalizing y with
  | null | bool _ | str _ => cases y <;> simp_all [same]
  | num n =>
      cases y with
      | num m => exact Number.same_symm h
      | _ => simp [same] at h
  | arr items ih =>
      cases y with
      | arr others =>
          rw [same] at h ⊢
          exact sameItems_symm (fun x hx _ => ih x hx) h
      | _ => simp [same] at h
  | obj fields ih =>
      cases y with
      | obj others =>
          obtain ⟨hvalues, hnames⟩ := same_obj_iff.1 h
          refine same_obj_iff.2 ⟨fun name y hy => ?_, fun name x hx => ?_⟩
          · obtain ⟨x, hx⟩ := hnames name y hy
            obtain ⟨y', hy', hsame⟩ := hvalues name x hx
            obtain rfl : y = y' := Option.some_inj.1 (hy.symm.trans hy')
            exact ⟨x, hx, ih (name, x) (mem_of_lookup hx) hsame⟩
          · obtain ⟨y, hy, -⟩ := hvalues name x hx
            exact ⟨y, hy⟩
      | _ => simp [same] at h

theorem sameOption_symm {x y : Option Json} (h : sameOption x y = true) :
    sameOption y x = true := by
  cases x <;> cases y <;> simp only [sameOption, Bool.false_eq_true] at h ⊢
  exact same_symm h

/-! ### Transitivity -/

theorem sameItems_trans {xs ys zs : List Json}
    (h : ∀ x ∈ xs, ∀ y z, same x y = true → same y z = true → same x z = true)
    (hxy : sameItems xs ys = true) (hyz : sameItems ys zs = true) : sameItems xs zs = true := by
  induction xs generalizing ys zs with
  | nil =>
      cases ys with
      | nil => exact hyz
      | cons y rest => simp [sameItems] at hxy
  | cons x xs ih =>
      cases ys with
      | nil => simp [sameItems] at hxy
      | cons y ys =>
          cases zs with
          | nil => simp [sameItems] at hyz
          | cons z zs =>
              simp only [sameItems, Bool.and_eq_true] at hxy hyz ⊢
              exact ⟨h x List.mem_cons_self y z hxy.1 hyz.1,
                ih (fun w hw => h w (List.mem_cons_of_mem _ hw)) hxy.2 hyz.2⟩

theorem Number.same_trans {k m n : Number} (hkm : k.same m = true) (hmn : m.same n = true) :
    k.same n = true := by
  cases k with
  | int k =>
      cases m with
      | int m =>
          obtain rfl : k = m := by simpa [Number.same] using hkm
          exact hmn
      | float _ _ => cases hkm
  | float negX rankX =>
      cases m with
      | int m => cases hkm
      | float negY rankY =>
          cases n with
          | int n => cases hmn
          | float negZ rankZ =>
              rcases same_float_iff.1 hkm with ⟨rfl, rfl⟩ | ⟨hx, hy⟩
              · exact hmn
              · rcases same_float_iff.1 hmn with ⟨rfl, rfl⟩ | ⟨-, hz⟩
                · exact same_float_iff.2 (.inr ⟨hx, hy⟩)
                · exact same_float_iff.2 (.inr ⟨hx, hz⟩)

/-- Two values that equal a third one equal each other. -/
theorem same_trans {x y z : Json} (hxy : same x y = true) (hyz : same y z = true) :
    same x z = true := by
  induction x using ind generalizing y z with
  | null =>
      cases y with
      | null => exact hyz
      | _ => simp [same] at hxy
  | bool b =>
      cases y with
      | bool c =>
          obtain rfl : b = c := by simpa [same] using hxy
          exact hyz
      | _ => simp [same] at hxy
  | str s =>
      cases y with
      | str t =>
          obtain rfl : s = t := by simpa [same] using hxy
          exact hyz
      | _ => simp [same] at hxy
  | num n =>
      cases y with
      | num m =>
          cases z with
          | num k => exact Number.same_trans hxy hyz
          | _ => simp [same] at hyz
      | _ => simp [same] at hxy
  | arr items ih =>
      cases y with
      | arr others =>
          cases z with
          | arr last =>
              rw [same] at hxy hyz ⊢
              exact sameItems_trans (fun x hx _ _ => ih x hx) hxy hyz
          | _ => simp [same] at hyz
      | _ => simp [same] at hxy
  | obj fields ih =>
      cases y with
      | obj others =>
          cases z with
          | obj last =>
              obtain ⟨hvalues, hnames⟩ := same_obj_iff.1 hxy
              obtain ⟨hvalues', hnames'⟩ := same_obj_iff.1 hyz
              refine same_obj_iff.2 ⟨fun name x hx => ?_, fun name z hz => ?_⟩
              · obtain ⟨y, hy, hsame⟩ := hvalues name x hx
                obtain ⟨z, hz, hsame'⟩ := hvalues' name y hy
                exact ⟨z, hz, ih (name, x) (mem_of_lookup hx) hsame hsame'⟩
              · obtain ⟨y, hy⟩ := hnames' name z hz
                exact hnames name y hy
          | _ => simp [same] at hyz
      | _ => simp [same] at hxy

theorem sameOption_trans {x y z : Option Json} (hxy : sameOption x y = true)
    (hyz : sameOption y z = true) : sameOption x z = true := by
  cases x <;> cases y <;> cases z <;> simp only [sameOption, Bool.false_eq_true] at hxy hyz ⊢
  exact same_trans hxy hyz

/-- Equal values may stand for each other. -/
theorem sameOption_congr {x x' y y' : Option Json} (hx : sameOption x x' = true)
    (hy : sameOption y y' = true) : sameOption x y = sameOption x' y' := by
  refine Bool.eq_iff_iff.2 ⟨fun h => ?_, fun h => ?_⟩
  · exact sameOption_trans (sameOption_symm hx) (sameOption_trans h hy)
  · exact sameOption_trans hx (sameOption_trans h (sameOption_symm hy))

end TracePlayer.Json
