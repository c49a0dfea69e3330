/-
**What becomes of the entries of an event.**

An object that is read as an event and written again need not be the same object: entries change
their names and their order, and some come in or go out.  Nothing that was said is lost, though.  An
entry that names a part is written under the short name of the part, unless it is a `null` that says
the same as no entry at all; the other entries are kept as they are; and what is written beyond that
are the values that a missing part stands for.

Main definitions:

* `Json.Distinct`: **values in which no object binds a name twice**, as they are read from a text;
* `EventField.respelled`: what is written for the value of a part;
* `EventField.optional`, `EventField.default?`: the parts that may be left out, and what is written
  for the other ones if they are missing;
* `Event.Rewrites`: **how the entries of an object are found again** in what is written.

Main results:

* `Json.distinct_of_parse?`: no object of a text binds a name twice;
* `EventField.write_of_read`: what is read from a value is written as this value;
* `Event.rewrites_of_decode`: **no entry of an event is lost, and none is made up**.
-/
import TracePlayer.Proofs.Trace.RoundTrip

set_option autoImplicit false

namespace TracePlayer

/-! ### Objects that bind no name twice -/

namespace Bindings

variable {α : Type}

/-- Pairs with distinct names are kept as they are when they are bound one after the other. -/
theorem toList_ofPairs {pairs : List (String × α)} (nodup : (pairs.map Prod.fst).Nodup) :
    (ofPairs pairs).toList = pairs :=
  congrArg toList (ofPairs_toList ⟨pairs, nodup⟩)

theorem mem_of_mem_ofPairs {pairs : List (String × α)} {pair : String × α}
    (h : pair ∈ (ofPairs pairs).toList) : pair ∈ pairs := by
  have hfind := find?_eq_some_iff.2 h
  rw [find?_ofPairs] at hfind
  obtain ⟨before, after, hpairs, -⟩ := List.lookup_eq_some_iff.1 hfind
  exact List.mem_reverse.1 (hpairs ▸ List.mem_append_right before List.mem_cons_self)

end Bindings

namespace Json

/-- **A value in which no object binds a name twice.** -/
inductive Distinct : Json → Prop
  | null : Distinct null
  | bool (b : Bool) : Distinct (bool b)
  | num (n : Number) : Distinct (num n)
  | str (s : String) : Distinct (str s)
  | arr {items : List Json} (inside : ∀ item ∈ items, Distinct item) : Distinct (arr items)
  | obj {fields : List (String × Json)} (nodup : (fields.map Prod.fst).Nodup)
      (inside : ∀ field ∈ fields, Distinct field.2) : Distinct (obj fields)

namespace Raw

mutual

theorem distinct_of_value? {depth : Nat} : ∀ {raw : Raw} {value : Json},
    value? depth raw = some value → value.Distinct
  | null, _, h => Option.some_inj.1 h ▸ .null
  | bool b, _, h => Option.some_inj.1 h ▸ .bool b
  | num text, _, h => by
      obtain ⟨n, -, rfl⟩ := Option.map_eq_some_iff.1 h
      exact .num n
  | str parts, _, h => by
      obtain ⟨s, -, rfl⟩ := Option.map_eq_some_iff.1 h
      exact .str s
  | arr items, _, h => by
      rw [value?] at h
      split at h
      · cases h
      · obtain ⟨values, hvalues, rfl⟩ := Option.map_eq_some_iff.1 h
        exact .arr (distinct_of_values? hvalues)
  | obj fields, _, h => by
      rw [value?] at h
      split at h
      · cases h
      · obtain ⟨pairs, hpairs, rfl⟩ := Option.map_eq_some_iff.1 h
        refine .obj (Bindings.ofPairs pairs).nodup fun pair hpair => ?_
        exact distinct_of_pairs? hpairs pair (Bindings.mem_of_mem_ofPairs hpair)

theorem distinct_of_values? {depth : Nat} : ∀ {items : List Raw} {values : List Json},
    values? depth items = some values → ∀ value ∈ values, value.Distinct
  | [], _, h => by
      obtain rfl := Option.some_inj.1 h
      simp
  | item :: rest, _, h => by
      simp only [values?, Option.bind_eq_bind, Option.bind_eq_some_iff, Option.pure_def,
        Option.some_inj] at h
      obtain ⟨value, hvalue, values, hvalues, rfl⟩ := h
      exact List.forall_mem_cons.2 ⟨distinct_of_value? hvalue, distinct_of_values? hvalues⟩

theorem distinct_of_pairs? {depth : Nat} : ∀ {fields : List (List StringPart × Raw)}
    {pairs : List (String × Json)}, pairs? depth fields = some pairs →
      ∀ pair ∈ pairs, pair.2.Distinct
  | [], _, h => by
      obtain rfl := Option.some_inj.1 h
      simp
  | (name, item) :: rest, _, h => by
      simp only [pairs?, Option.bind_eq_bind, Option.bind_eq_some_iff, Option.pure_def,
        Option.some_inj] at h
      obtain ⟨name, -, value, hvalue, pairs, hpairs, rfl⟩ := h
      exact List.forall_mem_cons.2 ⟨distinct_of_value? hvalue, distinct_of_pairs? hpairs⟩

end

end Raw

/-- **No object of a text binds a name twice.** -/
theorem distinct_of_parse? {text : String} {value : Json} (h : parse? text = some value) :
    value.Distinct := by
  obtain ⟨raw, -, hraw⟩ := Option.bind_eq_some_iff.1 h
  exact Raw.distinct_of_value? hraw

end Json

/-! ### Parts -/

namespace Kind

/-- The spelling in which a kind is written: its own one if it is known, and the one in which it was
read if it is not. -/
def spelling (text : String) : String :=
  if (ofName text).isKnown then (ofName text).name else text

theorem name_ofName (text : String) : (ofName text).name = spelling text := by
  unfold spelling
  cases hkind : ofName text with
  | other name => exact (ofName_eq_other_iff.1 hkind).1
  | call | line | ret | input | exception => rfl

end Kind

namespace EventField

/-- The parts that are not written if they hold nothing. -/
def optional : List EventField := [args, assignments, previous, stdout]

/-- What is written for a part that was not read. -/
def default? : EventField → Option Json
  | timestamp | delta | line | depth => some (.ofNat 0)
  | function => some (.str "")
  | parent => some .null
  | _ => none

/-- What is written for the value of a part: the value, but a kind in the spelling in which it is
written. -/
def respelled : EventField → Json → Json
  | kind, .str text => .str (Kind.spelling text)
  | _, value => value

theorem isNone_ofKey? (key : String) :
    (ofKey? key).isNone = all.all fun field => decide (key ∉ field.keys) := by
  rw [Bool.eq_iff_iff, Option.isNone_iff_eq_none, ofKey?_eq_none_iff, List.all_eq_true]
  simp only [decide_eq_true_eq]
  exact ⟨fun h field _ => h field, fun h field => h field field.mem_all⟩

theorem respelled_of_ne {field : EventField} (h : field ≠ kind) (value : Json) :
    field.respelled value = value := by
  cases field with
  | kind => exact absurd rfl h
  | _ => rfl

theorem ne_kind_of_optional {field : EventField} (h : field ∈ optional) : field ≠ kind := by
  rintro rfl
  simp [optional] at h

end EventField

namespace Json

variable {α : Type} {read : Json → Except DecodeError α} {write : α → Json}

/-- What may be `null` is written as it was read, if the rest is. -/
theorem ofOption_of_orNull {value : Json} {content : Option α}
    (hwrite : ∀ a, read value = .ok a → write a = value) (h : value.orNull read = .ok content) :
    ofOption write content = value := by
  rw [orNull.eq_def] at h
  split at h
  · obtain rfl := Except.ok.inj h
    rfl
  · cases hread : read value with
    | error fault => simp [hread, Except.map] at h
    | ok a =>
        rw [hread] at h
        obtain rfl : some a = content := Except.ok.inj h
        exact hwrite a hread

theorem wordJson_of_toWord64 {value : Json} {word : UInt64} (h : value.toWord64 = .ok word) :
    Event.wordJson word = value :=
  (toWord64_eq_ok_iff.1 h).symm

theorem ofNat_of_toWord32 {value : Json} {word : UInt32} (h : value.toWord32 = .ok word) :
    ofNat word.toNat = value :=
  (toWord32_eq_ok_iff.1 h).symm

theorem str_of_toText {value : Json} {text : String} (h : value.toText = .ok text) :
    str text = value := by
  cases value with
  | str s => exact congrArg str (Except.ok.inj h).symm
  | _ => cases h

theorem bindingsJson_of_toBindings {value : Json} {bindings : Bindings Json}
    (distinct : value.Distinct) (h : value.toBindings = .ok bindings) :
    Event.bindingsJson bindings = value := by
  cases distinct with
  | obj nodup =>
      obtain rfl := Except.ok.inj h
      exact congrArg obj (Bindings.toList_ofPairs nodup)
  | _ => cases h

end Json

namespace EventField

/-- **What is read from a value is written as this value**, but for the spelling of a kind. -/
theorem write_of_read {field : EventField} {value : Json} {content : field.Value}
    (distinct : value.Distinct) (h : field.read value = .ok content) :
    field.write content = field.respelled value := by
  cases field with
  | step | timestamp | delta | frame => exact Json.wordJson_of_toWord64 h
  | line | depth => exact Json.ofNat_of_toWord32 h
  | kind =>
      cases value with
      | str text =>
          obtain rfl : Kind.ofName text = content := Except.ok.inj h
          exact congrArg Json.str (Kind.name_ofName text)
      | _ => cases h
  | function => exact Json.str_of_toText h
  | parent => exact Json.ofOption_of_orNull (fun _ => Json.wordJson_of_toWord64) h
  | args | assignments | previous =>
      exact Json.ofOption_of_orNull (fun _ => Json.bindingsJson_of_toBindings distinct) h
  | returnValue => exact (Except.ok.inj h).symm
  | stdout => exact Json.ofOption_of_orNull (fun _ => Json.str_of_toText) h

end EventField

/-! ### What the parts of the event hold -/

namespace EventField

/-- What an event holds in a part, by what was read for it. -/
def held : (field : EventField) → Option field.Value → Option field.Value
  | timestamp, slot | delta, slot => some (slot.getD (0 : UInt64))
  | line, slot | depth, slot => some (slot.getD (0 : UInt32))
  | function, slot => some (slot.getD "")
  | parent, slot => some (slot.getD none)
  | args, slot | assignments, slot | previous, slot => (slot.getD none).map some
  | stdout, slot => (slot.getD none).map some
  | step, slot | kind, slot | frame, slot | returnValue, slot => slot

variable {field : EventField} {content : field.Value}

/-- What was read is held, unless the part is left out if it holds nothing. -/
theorem held_some (kept : field ∈ optional → field.write content ≠ .null) :
    field.held (some content) = some content := by
  cases field with
  | args | assignments | previous | stdout =>
      cases content with
      | none => exact absurd rfl (kept (by decide))
      | some a => rfl
  | _ => rfl

theorem held_of_read_null (h : field.read .null = .ok content) (left : field ∈ optional) :
    field.held (some content) = none := by
  cases field with
  | args | assignments | previous | stdout =>
      obtain rfl := Except.ok.inj h
      rfl
  | _ => simp [optional] at left

theorem map_write_held_none (field : EventField) :
    (field.held none).map field.write = field.default? := by
  cases field <;> rfl

end EventField

theorem EventDraft.Makes.content_eq {draft : EventDraft} {event : Event}
    (makes : draft.Makes event) (field : EventField) :
    event.content field = field.held (draft.value field) := by
  cases field with
  | step => exact makes.step.symm
  | kind => exact makes.kind.symm
  | frame => exact makes.frame.symm
  | timestamp => exact congrArg some makes.timestamp
  | delta => exact congrArg some makes.delta
  | function => exact congrArg some makes.function
  | line => exact congrArg some makes.line
  | parent => exact congrArg some makes.parent
  | depth => exact congrArg some makes.depth
  | args => exact congrArg (Option.map some) makes.args
  | assignments => exact congrArg (Option.map some) makes.assignments
  | previous => exact congrArg (Option.map some) makes.previous
  | returnValue => exact makes.returnValue
  | stdout => exact congrArg (Option.map some) makes.stdout

/-! ### The entries that are written -/

namespace Event

variable {entries : List (String × Json)} {draft : EventDraft} {event : Event}

/-- **How the entries of an object are found again** in what is written for the event. -/
structure Rewrites (entries : List (String × Json)) (event : Event) : Prop where
  /-- An entry of a part is written under the short name, unless it is a `null` that says the same
  as no entry at all. -/
  kept : ∀ entry ∈ entries, ∀ field : EventField, entry.1 ∈ field.keys →
    (field ∈ EventField.optional → entry.2 ≠ .null) →
      (field.name, field.respelled entry.2) ∈ event.entries
  /-- Nothing is written for such a `null`. -/
  dropped : ∀ entry ∈ entries, ∀ field ∈ EventField.optional, entry.1 ∈ field.keys →
    entry.2 = .null → ∀ written ∈ event.entries, written.1 ∉ field.keys
  /-- The entries that name no part are the further entries of the event, in their order. -/
  extra : event.extra.toList = entries.filter fun entry =>
    EventField.all.all fun field => decide (entry.1 ∉ field.keys)
  /-- They are written as they are. -/
  further : event.extra.toList <:+ event.entries
  /-- Whatever else is written stands for an entry of a part, or for a part that is missing. -/
  added : ∀ written ∈ event.entries, written ∈ event.extra.toList ∨
    ∃ field : EventField, written.1 = field.name ∧
      ((∃ entry ∈ entries, entry.1 ∈ field.keys ∧ written.2 = field.respelled entry.2) ∨
        ((∀ entry ∈ entries, entry.1 ∉ field.keys) ∧ field.default? = some written.2))
  /-- These values are written. -/
  defaults : ∀ field : EventField, (∀ entry ∈ entries, entry.1 ∉ field.keys) →
    ∀ value ∈ field.default?, (field.name, value) ∈ event.entries
  /-- Nothing is written twice. -/
  nodup : (event.entries.map Prod.fst).Nodup

theorem Readable.nodup_entries (readable : event.Readable) :
    (event.entries.map Prod.fst).Nodup := by
  have honce := readable.namesOnce_entries
  rw [entries_eq, NamesOnce, List.pairwise_append] at honce
  obtain ⟨hparts, -, hcross⟩ := honce
  have hname : ∀ entry ∈ EventField.all.flatMap event.entriesOf,
      ∃ field : EventField, entry.1 ∈ field.keys := by
    intro entry hentry
    obtain ⟨field, -, hfield⟩ := List.mem_flatMap.1 hentry
    obtain ⟨content, -, rfl⟩ := mem_entriesOf_iff.1 hfield
    exact ⟨field, field.name_mem_keys⟩
  rw [entries_eq, List.Nodup, List.pairwise_map, List.pairwise_append]
  refine ⟨hparts.imp_of_mem ?_, List.pairwise_map.1 event.extra.nodup, ?_⟩
  · intro first second hfirst _ honce heq
    obtain ⟨field, hkey⟩ := hname first hfirst
    exact honce field hkey (heq ▸ hkey)
  · intro first hfirst second hsecond heq
    obtain ⟨field, hkey⟩ := hname first hfirst
    exact hcross first hfirst second hsecond field hkey (heq ▸ hkey)

section Parts

variable {field : EventField} {entry : String × Json}
  (hfold : entries.foldlM EventDraft.add .empty = .ok draft) (makes : draft.Makes event)

include hfold makes

/-- What is written for a part that an entry names. -/
theorem entriesOf_of_mem (hentry : entry ∈ entries) (distinct : entry.2.Distinct)
    (hkey : entry.1 ∈ field.keys) (hkept : field ∈ EventField.optional → entry.2 ≠ .null) :
    event.entriesOf field = [(field.name, field.respelled entry.2)] := by
  obtain ⟨content, hread, hvalue⟩ := exists_value_of_mem hfold hentry hkey
  have hwrite := EventField.write_of_read distinct hread
  have hcontent : event.content field = some content := by
    rw [makes.content_eq, hvalue]
    refine EventField.held_some fun hleft => ?_
    rw [hwrite, EventField.respelled_of_ne (EventField.ne_kind_of_optional hleft)]
    exact hkept hleft
  rw [entriesOf, hcontent, ← hwrite]
  rfl

/-- Nothing is written for a part that may be left out and is `null`. -/
theorem entriesOf_of_null (hentry : entry ∈ entries) (hkey : entry.1 ∈ field.keys)
    (left : field ∈ EventField.optional) (hnull : entry.2 = .null) :
    event.entriesOf field = [] := by
  obtain ⟨content, hread, hvalue⟩ := exists_value_of_mem hfold hentry hkey
  rw [hnull] at hread
  rw [entriesOf, makes.content_eq, hvalue, EventField.held_of_read_null hread left]
  rfl

/-- What is written for a part that no entry names. -/
theorem entriesOf_of_missing (missing : ∀ entry ∈ entries, entry.1 ∉ field.keys) :
    event.entriesOf field = (field.default?.map fun value => (field.name, value)).toList := by
  have hvalue : draft.value field = none := by
    refine Option.eq_none_iff_forall_ne_some.2 fun content hcontent => ?_
    obtain ⟨entry, hentry, hkey, -⟩ := (value_foldlM_add_iff hfold field content).1 hcontent
    exact missing entry hentry hkey
  rw [entriesOf, makes.content_eq, hvalue, ← EventField.map_write_held_none, Option.map_map]
  rfl

end Parts

/-- **No entry of an event is lost, and none is made up.** -/
theorem rewrites_of_decode (distinct : Json.Distinct (.obj entries))
    (h : decode (.obj entries) = .ok event) : event.Rewrites entries := by
  have readable := readable_of_decode h
  obtain ⟨_, draft, ⟨⟩, hfold, makes⟩ := decode_eq_ok_iff.1 h
  obtain ⟨hnodup, hinside⟩ : (entries.map Prod.fst).Nodup ∧
      ∀ entry ∈ entries, entry.2.Distinct := by
    cases distinct with
    | obj nodup inside => exact ⟨nodup, inside⟩
  constructor
  case kept =>
      intro entry hentry field hkey hkept
      have hmem : (field.name, field.respelled entry.2) ∈ event.entriesOf field := by
        rw [entriesOf_of_mem hfold makes hentry (hinside entry hentry) hkey hkept]
        exact List.mem_singleton_self _
      exact (readable.mem_entries_iff.2 hmem).1
  case dropped =>
      intro entry hentry field left hkey hnull written hwritten hsame
      have hmem := readable.mem_entries_iff.1 ⟨hwritten, hsame⟩
      rw [entriesOf_of_null hfold makes hentry hkey left hnull] at hmem
      cases hmem
  case extra =>
      simp only [← EventField.isNone_ofKey?]
      rw [makes.extra, EventDraft.extra_of_foldlM hfold]
      exact Bindings.toList_ofPairs (hnodup.sublist (List.filter_sublist.map Prod.fst))
  case further =>
      rw [entries_eq]
      exact List.suffix_append _ _
  case added =>
      intro written hwritten
      rw [entries_eq, List.mem_append, List.mem_flatMap] at hwritten
      refine hwritten.symm.imp_right ?_
      rintro ⟨field, -, hfield⟩
      by_cases hnamed : ∃ entry ∈ entries, entry.1 ∈ field.keys
      · obtain ⟨entry, hentry, hkey⟩ := hnamed
        by_cases hnull : field ∈ EventField.optional ∧ entry.2 = .null
        · rw [entriesOf_of_null hfold makes hentry hkey hnull.1 hnull.2] at hfield
          cases hfield
        · rw [entriesOf_of_mem hfold makes hentry (hinside entry hentry) hkey
            (not_and.1 hnull)] at hfield
          obtain rfl := List.mem_singleton.1 hfield
          exact ⟨field, rfl, .inl ⟨entry, hentry, hkey, rfl⟩⟩
      · have hmissing : ∀ entry ∈ entries, entry.1 ∉ field.keys := fun entry hentry hkey =>
          hnamed ⟨entry, hentry, hkey⟩
        rw [entriesOf_of_missing hfold makes hmissing, Option.mem_toList,
          Option.map_eq_some_iff] at hfield
        obtain ⟨value, hvalue, rfl⟩ := hfield
        exact ⟨field, rfl, .inr ⟨hmissing, hvalue⟩⟩
  case defaults =>
      intro field hmissing value hvalue
      have hmem : (field.name, value) ∈ event.entriesOf field := by
        rw [entriesOf_of_missing hfold makes hmissing, Option.mem_toList]
        exact Option.mem_map_of_mem _ hvalue
      exact (readable.mem_entries_iff.2 hmem).1
  case nodup => exact readable.nodup_entries

/-- The entries of an event in some spellings, with a note and two kinds of `null`. -/
def mixedEntries : List (String × Json) :=
  [("zone", .null), ("kind", .str "RETURN"), ("frameId", .ofNat 2), ("previous", .null),
    ("returnValue", .null), ("step", .ofNat 7), ("args", .obj [("x", .ofNat 1)]),
    ("note", .str "n")]

/-- These entries are written under their short names; `previous` is left out, and the note comes
after the zone as before. -/
theorem rewrites_mixedEntries :
    Json.Distinct (.obj mixedEntries) ∧
      ∃ event, decode (.obj mixedEntries) = .ok event ∧ event.Rewrites mixedEntries ∧
        event.entries = [("step", .ofNat 7), ("ts", .ofNat 0), ("dt", .ofNat 0),
          ("event", .str "Return"), ("func", .str ""), ("line", .ofNat 0), ("fid", .ofNat 2),
          ("parent", .null), ("depth", .ofNat 0), ("args", .obj [("x", .ofNat 1)]), ("ret", .null),
          ("zone", .null), ("note", .str "n")] := by
  have hdistinct : Json.Distinct (.obj mixedEntries) := by
    refine .obj (by decide) ?_
    simp only [mixedEntries, List.forall_mem_cons]
    refine ⟨.null, .str _, .num _, .null, .null, .num _, .obj (by decide) ?_, .str _, by simp⟩
    simp only [List.forall_mem_singleton]
    exact .num _
  have hdecode : ∃ event, decode (.obj mixedEntries) = .ok event := ⟨_, rfl⟩
  obtain ⟨event, hevent⟩ := hdecode
  refine ⟨hdistinct, event, hevent, rewrites_of_decode hdistinct hevent, ?_⟩
  obtain rfl := Except.ok.inj hevent
  rfl

end Event

end TracePlayer
