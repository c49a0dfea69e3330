/-
**Pairs bound one after the other.**

Bindings made in order remember two things of the pairs they were made from: the names in the order
in which they occur for the first time, and for each name the value it was given last.

Main results:

* `Bindings.find?_eq_some_iff`: a look-up finds the pairs of the list;
* `Bindings.names_prefix_overlay`: an overlay keeps the names and their order;
* `Bindings.names_ofPairs`: the names, each at the place of its first pair;
* `Bindings.find?_ofPairs`: the value of a name is that of its last pair;
* `Bindings.ofPairs_toList`: bindings are made from their own pairs;
* `Bindings.ext_find?`: bindings are determined by their names and the value of each.
-/
import TracePlayer.Bindings

set_option autoImplicit false

namespace TracePlayer.Bindings

variable {α : Type}

/-! ### Look-ups -/

theorem lookup_eq_some_iff_mem {pairs : List (String × α)} (h : (pairs.map Prod.fst).Nodup)
    {name : String} {value : α} : pairs.lookup name = some value ↔ (name, value) ∈ pairs := by
  induction pairs with
  | nil => simp
  | cons pair rest ih =>
      obtain ⟨hpair, hrest⟩ := List.nodup_cons.1 h
      rw [lookup_cons_eq, List.mem_cons]
      by_cases e : name = pair.1
      · have hnot : (name, value) ∉ rest := fun hmem =>
          hpair (e ▸ List.mem_map_of_mem (f := Prod.fst) hmem)
        rw [if_pos e, Option.some_inj, or_iff_left hnot]
        constructor
        · rintro rfl
          rw [e]
        · exact fun e' => (congrArg Prod.snd e').symm
      · have hne : (name, value) ≠ pair := fun e' => e (congrArg Prod.fst e')
        rw [if_neg e, ih hrest, or_iff_right hne]

/-- A look-up finds the pairs of the list. -/
theorem find?_eq_some_iff {bindings : Bindings α} {name : String} {value : α} :
    bindings.find? name = some value ↔ (name, value) ∈ bindings.toList :=
  lookup_eq_some_iff_mem bindings.nodup

/-- Two lists of pairs with the same distinct names, each bound to the same value, are equal. -/
theorem eq_of_lookup_eq {xs ys : List (String × α)} (hxs : (xs.map Prod.fst).Nodup)
    (hnames : xs.map Prod.fst = ys.map Prod.fst) (h : ∀ name, xs.lookup name = ys.lookup name) :
    xs = ys := by
  refine List.ext_getElem? fun i => ?_
  have hys : (ys.map Prod.fst).Nodup := hnames ▸ hxs
  have hlength : xs.length = ys.length := by simpa using congrArg List.length hnames
  by_cases hi : i < xs.length
  · have hname : xs[i].1 = ys[i].1 := by
      have := congrArg (·[i]?) hnames
      simpa [hi, hlength ▸ hi] using this
    have hx : xs.lookup xs[i].1 = some xs[i].2 :=
      (lookup_eq_some_iff_mem hxs).2 (List.getElem_mem hi)
    have hy : ys.lookup ys[i].1 = some ys[i].2 :=
      (lookup_eq_some_iff_mem hys).2 (List.getElem_mem (hlength ▸ hi))
    have hvalue : some xs[i].2 = some ys[i].2 := by rw [← hx, ← hy, hname, h]
    rw [List.getElem?_eq_getElem hi, List.getElem?_eq_getElem (hlength ▸ hi)]
    exact congrArg some (Prod.ext hname (Option.some_inj.1 hvalue))
  · rw [List.getElem?_eq_none (by omega), List.getElem?_eq_none (by omega)]

/-- Bindings are determined by their names and the value of each. -/
theorem ext_find? {first second : Bindings α} (hnames : first.names = second.names)
    (h : ∀ name, first.find? name = second.find? name) : first = second :=
  Bindings.ext (eq_of_lookup_eq first.nodup hnames h)

/-! ### Overlays -/

theorem eraseDups_of_nodup {names : List String} (h : names.Nodup) : names.eraseDups = names := by
  induction names with
  | nil => rfl
  | cons name rest ih =>
      obtain ⟨hname, hrest⟩ := List.nodup_cons.1 h
      have hfilter : (rest.filter fun other => !other == name) = rest := by
        refine List.filter_eq_self.2 fun other hother => ?_
        have hne : other ≠ name := fun e => hname (e ▸ hother)
        simp [hne]
      rw [List.eraseDups_cons, hfilter, ih hrest]

/-- The names of an overlay: those that were bound, then the new ones, each at the place of its
first pair. -/
theorem names_overlay (bindings : Bindings α) (pairs : List (String × α)) :
    (bindings.overlay pairs).names = (bindings.names ++ pairs.map Prod.fst).eraseDups := by
  induction pairs generalizing bindings with
  | nil =>
      rw [overlay_nil, List.map_nil, List.append_nil]
      exact (eraseDups_of_nodup bindings.nodup).symm
  | cons pair rest ih =>
      rw [overlay_cons, ih, names_insert, List.map_cons]
      split
      · next hmem =>
          rw [List.eraseDups_append, List.eraseDups_append, List.cons_removeAll]
          simp [hmem]
      · simp

/-- The value of a name in an overlay: that of its last pair, or else the one it had. -/
theorem find?_overlay (bindings : Bindings α) (pairs : List (String × α)) (name : String) :
    (bindings.overlay pairs).find? name
      = (pairs.reverse.lookup name).or (bindings.find? name) := by
  induction pairs generalizing bindings with
  | nil => simp
  | cons pair rest ih =>
      rw [overlay_cons, ih, find?_insert, List.reverse_cons, List.lookup_append, Option.or_assoc,
        lookup_cons_eq]
      split <;> simp

/-- An overlay binds no name away, and new names come after those that were bound. -/
theorem names_prefix_overlay (bindings : Bindings α) (pairs : List (String × α)) :
    bindings.names <+: (bindings.overlay pairs).names := by
  induction pairs generalizing bindings with
  | nil => exact List.prefix_rfl
  | cons pair rest ih =>
      have hfirst : bindings.names <+: (bindings.insert pair.1 pair.2).names := by
        rw [names_insert]
        split
        · exact List.prefix_rfl
        · exact List.prefix_append _ _
      exact hfirst.trans (ih _)

theorem mem_names_iff {bindings : Bindings α} {name : String} :
    name ∈ bindings.names ↔ ∃ value, bindings.find? name = some value := by
  rw [names, List.mem_map]
  constructor
  · rintro ⟨⟨_, value⟩, hpair, rfl⟩
    exact ⟨value, find?_eq_some_iff.2 hpair⟩
  · rintro ⟨value, hvalue⟩
    exact ⟨(name, value), find?_eq_some_iff.1 hvalue, rfl⟩

/-! ### Bindings made from nothing -/

/-- The names of pairs bound in order, each at the place of its first pair. -/
theorem names_ofPairs (pairs : List (String × α)) :
    (ofPairs pairs).names = (pairs.map Prod.fst).eraseDups :=
  names_overlay empty pairs

/-- The value of a name among pairs bound in order is that of its last pair. -/
theorem find?_ofPairs (pairs : List (String × α)) (name : String) :
    (ofPairs pairs).find? name = pairs.reverse.lookup name := by
  rw [ofPairs, find?_overlay, find?_empty, Option.or_none]

/-- Bindings are made from their own pairs. -/
theorem ofPairs_toList (bindings : Bindings α) : ofPairs bindings.toList = bindings := by
  refine ext_find? ?_ fun name => ?_
  · rw [names_ofPairs]
    exact eraseDups_of_nodup bindings.nodup
  · rw [find?_ofPairs]
    have hreverse : (bindings.toList.reverse.map Prod.fst).Nodup := by
      rw [List.map_reverse]
      exact (List.reverse_perm _).nodup_iff.2 bindings.nodup
    refine Option.ext fun value => ?_
    rw [lookup_eq_some_iff_mem hreverse, List.mem_reverse, find?_eq_some_iff]

/-- An overlay of bindings is made from their own pairs and the further ones. -/
theorem overlay_eq_ofPairs (bindings : Bindings α) (pairs : List (String × α)) :
    bindings.overlay pairs = ofPairs (bindings.toList ++ pairs) := by
  rw [ofPairs, overlay_append, ← ofPairs, ofPairs_toList]

end TracePlayer.Bindings
