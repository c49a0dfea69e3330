/-
**Objects and lists read piece by piece.**

An object of a trace is read in the order of its entries.  Some of them name a part of the whole,
under one of its spellings; such an entry is read and fills the part, and no part may be filled
twice.  Whether an object is read at all then depends on two things only: every entry that names a
part can be read, and no two of them name the same part.

Main definitions:

* `PartReader`: how one entry is taken;
* `NamesOnce`: no two entries name the same part.

Main results:

* `mapM_eq_ok_iff`, `exists_mapM_iff`: what is read from a list, and which lists are read;
* `PartReader.of_fill`: a reader that fills one part at a time takes entries in this way;
* `PartReader.exists_foldlM_iff`: **which objects are read**;
* `PartReader.get_foldlM_iff`: what a part holds afterwards.
-/
import TracePlayer.Json.Value

set_option autoImplicit false

namespace TracePlayer

/-! ### Reading one thing after the other -/

theorem bind_eq_ok_iff {α β ε : Type} {first : Except ε α} {next : α → Except ε β} {result : β} :
    first >>= next = .ok result ↔ ∃ a, first = .ok a ∧ next a = .ok result := by
  cases first <;> simp [bind, Except.bind]

theorem exists_map_eq_ok_iff {α β ε : Type} {f : α → β} {result : Except ε α} :
    (∃ b, result.map f = .ok b) ↔ ∃ a, result = .ok a := by
  cases result <;> simp [Except.map]

/-- A value is read into an empty slot and into no other. -/
theorem ite_isSome_map_eq_ok_iff {α β σ ε : Type} {slot : Option α} {result : Except ε β}
    {f : β → σ} {fault : ε} {next : σ} :
    (if slot.isSome then .error fault else result.map f) = .ok next ↔
      slot = none ∧ ∃ content, result = .ok content ∧ f content = next := by
  cases slot with
  | some _ => simp
  | none => cases result <;> simp [Except.map]

/-- A list is read item by item, in order. -/
theorem mapM_eq_ok_iff {α β ε : Type} {f : α → Except ε β} {xs : List α} {ys : List β} :
    xs.mapM f = .ok ys ↔ xs.map f = ys.map .ok := by
  induction xs generalizing ys with
  | nil => simp [pure, Except.pure, eq_comm]
  | cons x rest ih =>
      rw [List.map_cons, eq_comm (b := ys.map Except.ok), List.map_eq_cons_iff]
      simp only [List.mapM_cons, bind_eq_ok_iff, ih]
      constructor
      · rintro ⟨y, hy, zs, hrest, hys⟩
        exact ⟨y, zs, (Except.ok.inj hys).symm, hy.symm, hrest.symm⟩
      · rintro ⟨y, zs, rfl, hy, hrest⟩
        exact ⟨y, hy.symm, zs, hrest.symm, rfl⟩

/-- A list is read if each of its items is. -/
theorem exists_mapM_iff {α β ε : Type} {f : α → Except ε β} {xs : List α} :
    (∃ ys, xs.mapM f = .ok ys) ↔ ∀ x ∈ xs, ∃ y, f x = .ok y := by
  induction xs with
  | nil => exact iff_of_true ⟨[], rfl⟩ (by simp)
  | cons x rest ih =>
      simp only [List.forall_mem_cons, ← ih, List.mapM_cons, bind_eq_ok_iff]
      constructor
      · rintro ⟨_, y, hy, zs, hrest, -⟩
        exact ⟨⟨y, hy⟩, zs, hrest⟩
      · rintro ⟨⟨y, hy⟩, zs, hrest⟩
        exact ⟨_, y, hy, zs, hrest, rfl⟩

/-! ### Keys -/

/-- Under a name or another one: in the list of both. -/
theorem name_or_alias_iff {name key : String} {alias? : Option String} :
    (name == key || alias? == some key) = true ↔ key ∈ name :: alias?.toList := by
  rw [Bool.or_eq_true, beq_iff_eq, beq_iff_eq, List.mem_cons, Option.mem_toList, eq_comm]

/-- A search for the one item that has a property finds it. -/
theorem find?_eq_some_iff_of_unique {κ : Type} {all : List κ} {p : κ → Bool}
    (unique : ∀ {a b}, p a = true → p b = true → a = b) {part : κ} (hpart : part ∈ all) :
    all.find? p = some part ↔ p part = true := by
  refine ⟨List.find?_some, fun h => ?_⟩
  obtain ⟨other, hother⟩ : ∃ other, all.find? p = some other :=
    Option.isSome_iff_exists.1 (List.find?_isSome.2 ⟨part, hpart, h⟩)
  rw [hother, unique (List.find?_some hother) h]

/-- No two entries name the same part, be it under two spellings. -/
def NamesOnce {κ : Type} (keys : κ → List String) (entries : List (String × Json)) : Prop :=
  entries.Pairwise fun a b => ∀ part, a.1 ∈ keys part → b.1 ∉ keys part

/-- The entry that names a part under one spelling is found under this spelling. -/
theorem NamesOnce.lookup_eq_some {κ : Type} {keys : κ → List String}
    {entries : List (String × Json)} (once : NamesOnce keys entries) {key : String} {value : Json}
    {part : κ} (hkey : key ∈ keys part) (hentry : (key, value) ∈ entries) :
    entries.lookup key = some value := by
  induction entries with
  | nil => cases hentry
  | cons head rest ih =>
      obtain ⟨hhead, hrest⟩ := List.pairwise_cons.1 once
      rw [Bindings.lookup_cons_eq]
      cases List.mem_cons.1 hentry with
      | inl heq => rw [← heq, if_pos rfl]
      | inr hmem =>
          have hne : key ≠ head.1 := fun heq => hhead _ hmem part (heq ▸ hkey) hkey
          rw [if_neg hne]
          exact ih hrest hmem

/-! ### Reading objects -/

/-- **How an object is read**: an entry is taken if it names no part, or one that is not filled and
that the entry can be read for; it then fills this part and no other. -/
structure PartReader {σ κ ε : Type} {V : κ → Type} (keys : κ → List String)
    (read : (part : κ) → Json → Except ε (V part)) (get : σ → (part : κ) → Option (V part))
    (add : σ → String × Json → Except ε σ) : Prop where
  /-- Which entries are taken. -/
  exists_add_iff : ∀ draft entry, (∃ next, add draft entry = .ok next) ↔
    ∀ part, entry.1 ∈ keys part →
      get draft part = none ∧ ∃ content, read part entry.2 = .ok content
  /-- What the parts hold afterwards. -/
  get_add_iff : ∀ {draft entry next}, add draft entry = .ok next → ∀ part content,
    get next part = some content ↔
      get draft part = some content ∨
        entry.1 ∈ keys part ∧ read part entry.2 = .ok content

namespace PartReader

variable {σ κ ε : Type} {V : κ → Type} {keys : κ → List String}
  {read : (part : κ) → Json → Except ε (V part)} {get : σ → (part : κ) → Option (V part)}
  {add : σ → String × Json → Except ε σ} {draft next : σ} {entry : String × Json}
  {entries : List (String × Json)}

/-- A reader takes entries in this way if an entry that names no part leaves the parts as they are,
and any other one fills its part, as long as it can be read and the part is empty. -/
theorem of_fill (fill : σ → (part : κ) → V part → σ)
    (eq_of_mem_keys : ∀ {key part other}, key ∈ keys part → key ∈ keys other → part = other)
    (get_fill_self : ∀ draft part content, get (fill draft part content) part = some content)
    (get_fill_of_ne : ∀ draft part content other, part ≠ other →
      get (fill draft part content) other = get draft other)
    (unnamed : ∀ draft entry, (∀ part, entry.1 ∉ keys part) →
      ∃ next, add draft entry = .ok next ∧ get next = get draft)
    (named : ∀ draft entry part, entry.1 ∈ keys part → ∀ next,
      add draft entry = .ok next ↔
        get draft part = none ∧
          ∃ content, read part entry.2 = .ok content ∧ fill draft part content = next) :
    PartReader keys read get add where
  exists_add_iff draft entry := by
    by_cases hkey : ∃ part, entry.1 ∈ keys part
    · obtain ⟨part, hpart⟩ := hkey
      simp only [named draft entry part hpart]
      constructor
      · rintro ⟨next, hempty, content, hread, -⟩ other hother
        obtain rfl := eq_of_mem_keys hpart hother
        exact ⟨hempty, content, hread⟩
      · intro htakes
        obtain ⟨hempty, content, hread⟩ := htakes part hpart
        exact ⟨_, hempty, content, hread, rfl⟩
    · obtain ⟨next, hnext, -⟩ := unnamed draft entry (not_exists.1 hkey)
      exact iff_of_true ⟨next, hnext⟩ fun part hpart => absurd ⟨part, hpart⟩ hkey
  get_add_iff {draft entry next} h part content := by
    by_cases hkey : ∃ other, entry.1 ∈ keys other
    · obtain ⟨other, hother⟩ := hkey
      obtain ⟨hempty, content', hread, rfl⟩ := (named draft entry other hother next).1 h
      by_cases hpart : other = part
      · subst hpart
        simp [get_fill_self, hempty, hread, hother]
      · have hnot : entry.1 ∉ keys part := fun hmem => hpart (eq_of_mem_keys hother hmem)
        simp [get_fill_of_ne draft other content' part hpart, hnot]
    · obtain ⟨next', hnext', hget⟩ := unnamed draft entry (not_exists.1 hkey)
      obtain rfl : next' = next := Except.ok.inj (hnext'.symm.trans h)
      simp [hget, not_exists.1 hkey part]

theorem foldlM_cons_eq_ok_iff :
    (entry :: entries).foldlM add draft = .ok next ↔
      ∃ middle, add draft entry = .ok middle ∧ entries.foldlM add middle = .ok next := by
  rw [List.foldlM_cons, bind_eq_ok_iff]

/-- After an entry was taken, a part is empty if it was and the entry does not name it. -/
theorem get_add_eq_none_iff (reader : PartReader keys read get add)
    (h : add draft entry = .ok next) (part : κ) :
    get next part = none ↔ get draft part = none ∧ entry.1 ∉ keys part := by
  obtain htakes := (reader.exists_add_iff draft entry).1 ⟨next, h⟩
  simp only [Option.eq_none_iff_forall_ne_some, ne_eq, reader.get_add_iff h, not_or, not_and,
    forall_and]
  refine and_congr_right fun _ => ⟨fun hread hpart => ?_, fun hpart _ hpart' => absurd hpart' hpart⟩
  obtain ⟨-, content, hcontent⟩ := htakes part hpart
  exact hread content hpart hcontent

/-- **Which objects are read**: those whose entries can be read for the parts they name, as long as
each part is empty at the beginning and named once. -/
theorem exists_foldlM_iff (reader : PartReader keys read get add) (draft : σ)
    (entries : List (String × Json)) :
    (∃ next, entries.foldlM add draft = .ok next) ↔
      (∀ entry ∈ entries, ∀ part, entry.1 ∈ keys part →
        get draft part = none ∧ ∃ content, read part entry.2 = .ok content) ∧
      NamesOnce keys entries := by
  induction entries generalizing draft with
  | nil => exact iff_of_true ⟨draft, rfl⟩ ⟨by simp, .nil⟩
  | cons entry rest ih =>
      simp only [foldlM_cons_eq_ok_iff, List.forall_mem_cons, NamesOnce, List.pairwise_cons]
      constructor
      · rintro ⟨next, middle, hmiddle, hrest⟩
        obtain ⟨htakes, hnames⟩ := (ih middle).1 ⟨next, hrest⟩
        refine ⟨⟨(reader.exists_add_iff draft entry).1 ⟨middle, hmiddle⟩, ?_⟩, ?_, hnames⟩
        · intro other hother part hpart
          obtain ⟨hempty, hread⟩ := htakes other hother part hpart
          exact ⟨((reader.get_add_eq_none_iff hmiddle part).1 hempty).1, hread⟩
        · intro other hother part hpart hpart'
          obtain ⟨hempty, -⟩ := htakes other hother part hpart'
          exact ((reader.get_add_eq_none_iff hmiddle part).1 hempty).2 hpart
      · rintro ⟨⟨htakes, hothers⟩, hfirst, hnames⟩
        obtain ⟨middle, hmiddle⟩ := (reader.exists_add_iff draft entry).2 htakes
        -- The part of the first entry is filled now, but no other entry names it.
        have hmiddle' : ∀ other ∈ rest, ∀ part, other.1 ∈ keys part →
            get middle part = none ∧ ∃ content, read part other.2 = .ok content := by
          intro other hother part hpart
          obtain ⟨hempty, hread⟩ := hothers other hother part hpart
          refine ⟨(reader.get_add_eq_none_iff hmiddle part).2 ⟨hempty, fun hpart' => ?_⟩, hread⟩
          exact hfirst other hother part hpart' hpart
        obtain ⟨next, hrest⟩ := (ih middle).2 ⟨hmiddle', hnames⟩
        exact ⟨next, middle, hmiddle, hrest⟩

/-- **What a part holds after an object was read**: what it held before, or what the entry that
names it was read for. -/
theorem get_foldlM_iff (reader : PartReader keys read get add)
    (h : entries.foldlM add draft = .ok next) (part : κ) (content : V part) :
    get next part = some content ↔
      get draft part = some content ∨
        ∃ entry ∈ entries, entry.1 ∈ keys part ∧ read part entry.2 = .ok content := by
  induction entries generalizing draft with
  | nil =>
      obtain rfl : draft = next := Except.ok.inj h
      simp
  | cons entry rest ih =>
      obtain ⟨middle, hmiddle, hrest⟩ := foldlM_cons_eq_ok_iff.1 h
      rw [ih hrest, reader.get_add_iff hmiddle, or_assoc]
      simp only [List.mem_cons, exists_eq_or_imp]

end PartReader

end TracePlayer
