/-
**Which values are trace documents, and what is read from them.**

Main definitions:

* `Payload.Field.keys`, `Payload.Field.Fits`: the spellings of a part of a document, and which
  values stand for it;
* `Json.IsTrace`: **well-formed trace documents**, whatever the order of their steps;
* `Json.traceItems`: the items of a document that stand for its events.

Main results:

* `Payload.Draft.partReader`: how the entries of a document are taken;
* `Payload.exists_decodeParts_iff`: **a value is read as a document if and only if it is
  well-formed**;
* `Payload.map_decode_traceItems`: the events of a document are read from its items, in order.
-/
import TracePlayer.Trace.Payload
import TracePlayer.Proofs.Trace.Event

set_option autoImplicit false

namespace TracePlayer

/-! ### Well-formed documents -/

namespace Payload

/-- **The spellings of a part of a document.** -/
def Field.keys : Field → List String
  | filename => ["filename"]
  | source => ["code", "sourceCode"]
  | events => ["trace", "events"]

/-- **Which values stand for a part of a document.** -/
def Field.Fits : Field → Json → Prop
  | filename, value | source, value => value.IsText
  | events, value => ∃ items, value = .arr items ∧ ∀ item ∈ items, item.IsEvent

end Payload

namespace Json

/-- **Well-formed trace documents**, whatever the order of their steps: a list of events, or an
object in which each part of a document is there at most once, be it under two spellings, and in its
shape. -/
def IsTrace : Json → Prop
  | arr items => ∀ item ∈ items, item.IsEvent
  | obj entries => NamesOnce Payload.Field.keys entries ∧
      ∀ entry ∈ entries, ∀ field : Payload.Field, entry.1 ∈ field.keys → field.Fits entry.2
  | _ => False

/-- The items of a document that stand for its events. -/
def traceItems : Json → List Json
  | arr items => items
  | obj entries =>
      match entries.find? fun entry => decide (entry.1 ∈ Payload.Field.events.keys) with
      | some (_, arr items) => items
      | _ => []
  | _ => []

end Json

namespace Payload

/-! ### Taking entries -/

namespace Field

/-- No key is a spelling of two parts. -/
theorem eq_of_mem_keys {key : String} {field other : Field} (hfield : key ∈ field.keys)
    (hother : key ∈ other.keys) : field = other := by
  have hdisjoint : ∀ key ∈ field.keys, key ∈ other.keys → field = other := by
    cases field <;> cases other <;> decide +kernel
  exact hdisjoint key hfield hother

/-- **A key names one part only**, the one it is a spelling of. -/
theorem ofKey?_eq_some_iff {field : Field} {key : String} :
    ofKey? key = some field ↔ key ∈ field.keys := by
  have hkey : ∀ {field : Field},
      (field.name == key || field.alias? == some key) = true ↔ key ∈ field.keys := fun {field} => by
    have hkeys : field.keys = field.name :: field.alias?.toList := by cases field <;> rfl
    rw [hkeys, name_or_alias_iff]
  rw [← hkey]
  exact find?_eq_some_iff_of_unique
    (fun hfield hother => eq_of_mem_keys (hkey.1 hfield) (hkey.1 hother)) (by cases field <;> simp)

theorem ofKey?_eq_none_iff {key : String} :
    ofKey? key = none ↔ ∀ field : Field, key ∉ field.keys := by
  simp only [Option.eq_none_iff_forall_ne_some, ne_eq, ofKey?_eq_some_iff]

theorem name_mem_keys (field : Field) : field.name ∈ field.keys := by
  cases field <;> exact List.mem_cons_self

end Field

theorem exists_decodeEvents_iff {value : Json} :
    (∃ events, decodeEvents value = .ok events) ↔ Field.events.Fits value := by
  cases value with
  | arr items =>
      simp only [decodeEvents, exists_mapM_iff, Event.exists_decode_iff, Field.Fits,
        Json.arr.injEq, exists_eq_left']
  | _ => simp [decodeEvents, Field.Fits]

/-- What a part of a document holds. -/
def Field.Value : Field → Type
  | filename | source => String
  | events => List Event

/-- The content of a part that a value stands for. -/
def Field.read : (field : Field) → Json → Except DecodeError field.Value
  | filename, value | source, value => value.toText
  | events, value => decodeEvents value

theorem Field.exists_read_iff (field : Field) (value : Json) :
    (∃ content, field.read value = .ok content) ↔ field.Fits value := by
  cases field with
  | filename | source => exact Json.exists_toText_iff
  | events => exact exists_decodeEvents_iff

namespace Draft

variable {draft next : Draft} {entry : String × Json}

/-- The content of each part, if it has been read. -/
def value (draft : Draft) : (field : Field) → Option field.Value
  | .filename => draft.filename
  | .source => draft.source
  | .events => draft.events

/-- Fills one part. -/
def fill (draft : Draft) : (field : Field) → field.Value → Draft
  | .filename, content => { draft with filename := some content }
  | .source, content => { draft with source := some content }
  | .events, content => { draft with events := some content }

theorem value_fill_self (draft : Draft) (field : Field) (content : field.Value) :
    (draft.fill field content).value field = some content := by
  cases field <;> rfl

theorem value_fill_of_ne (draft : Draft) (field : Field) (content : field.Value) (other : Field)
    (h : field ≠ other) : (draft.fill field content).value other = draft.value other := by
  cases field <;> cases other <;> first | rfl | exact absurd rfl h

theorem add_of_notMem_keys (h : ∀ field : Field, entry.1 ∉ field.keys) :
    draft.add entry = .ok draft := by
  simp only [add, Field.ofKey?_eq_none_iff.2 h]

/-- An entry that names a part is taken if it can be read for this part and the part is empty. -/
theorem add_eq_ok_iff {field : Field} (h : entry.1 ∈ field.keys) :
    draft.add entry = .ok next ↔
      draft.value field = none ∧
        ∃ content, field.read entry.2 = .ok content ∧ draft.fill field content = next := by
  cases field with
  | filename | source | events =>
      simp only [add, Field.ofKey?_eq_some_iff.2 h]
      exact ite_isSome_map_eq_ok_iff

/-- An entry under the name of a part that is still empty fills it. -/
theorem add_name (field : Field) {written : Json} {content : field.Value}
    (hempty : draft.value field = none) (hread : field.read written = .ok content) :
    draft.add (field.name, written) = .ok (draft.fill field content) :=
  (add_eq_ok_iff field.name_mem_keys).2 ⟨hempty, content, hread, rfl⟩

/-- **How the entries of a document are taken.** -/
theorem partReader : PartReader Field.keys Field.read Draft.value add :=
  .of_fill fill Field.eq_of_mem_keys value_fill_self value_fill_of_ne
    (fun draft _ hkey => ⟨draft, add_of_notMem_keys hkey, rfl⟩)
    fun _ _ _ hkey _ => add_eq_ok_iff hkey

end Draft

/-! ### Reading documents -/

variable {value : Json} {payload : Payload}

/-- Which entries are read at all. -/
theorem exists_foldlM_add_iff (entries : List (String × Json)) :
    (∃ draft, entries.foldlM Draft.add {} = .ok draft) ↔
      (∀ entry ∈ entries, ∀ field : Field, entry.1 ∈ field.keys → field.Fits entry.2) ∧
        NamesOnce Field.keys entries := by
  have hempty : ∀ field, Draft.value {} field = none := fun field => by cases field <;> rfl
  rw [Draft.partReader.exists_foldlM_iff]
  simp only [hempty, true_and, Field.exists_read_iff]

/-- What a part holds after the entries of a document were read. -/
theorem value_foldlM_add_iff {entries : List (String × Json)} {draft : Draft}
    (h : entries.foldlM Draft.add {} = .ok draft) (field : Field) (content : field.Value) :
    draft.value field = some content ↔
      ∃ entry ∈ entries, entry.1 ∈ field.keys ∧ field.read entry.2 = .ok content := by
  have hempty : Draft.value {} field = none := by cases field <;> rfl
  rw [Draft.partReader.get_foldlM_iff h]
  simp [hempty]

theorem decodeParts_obj_eq_ok_iff {entries : List (String × Json)} :
    decodeParts (.obj entries) = .ok payload ↔
      ∃ draft, entries.foldlM Draft.add {} = .ok draft ∧ draft.finish = payload := by
  simp only [decodeParts, bind_eq_ok_iff, pure, Except.pure, Except.ok.injEq]

theorem decodeParts_arr_eq_ok_iff {items : List Json} :
    decodeParts (.arr items) = .ok payload ↔
      ∃ events, items.mapM Event.decode = .ok events ∧
        (⟨defaultFilename, "", events⟩ : Payload) = payload := by
  simp only [decodeParts, decodeEvents, bind_eq_ok_iff, pure, Except.pure, Except.ok.injEq]

/-- **A value is read as a document if and only if it is well-formed.** -/
theorem exists_decodeParts_iff : (∃ payload, decodeParts value = .ok payload) ↔ value.IsTrace := by
  cases value with
  | arr items =>
      simp only [decodeParts_arr_eq_ok_iff, Json.IsTrace, ← Event.exists_decode_iff,
        ← exists_mapM_iff]
      constructor
      · rintro ⟨_, events, hevents, -⟩
        exact ⟨events, hevents⟩
      · rintro ⟨events, hevents⟩
        exact ⟨_, events, hevents, rfl⟩
  | obj entries =>
      simp only [decodeParts_obj_eq_ok_iff, Json.IsTrace]
      rw [and_comm, ← exists_foldlM_add_iff]
      constructor
      · rintro ⟨_, draft, hdraft, -⟩
        exact ⟨draft, hdraft⟩
      · rintro ⟨draft, hdraft⟩
        exact ⟨_, draft, hdraft, rfl⟩
  | null | bool _ | num _ | str _ => simp [decodeParts, Json.IsTrace]

/-- The events of an object are those of the entry that names them. -/
theorem events_of_foldlM_add {entries : List (String × Json)} {draft : Draft}
    (h : entries.foldlM Draft.add {} = .ok draft) :
    (Json.obj entries).traceItems.map Event.decode = (draft.events.getD []).map .ok := by
  obtain ⟨fits, -⟩ := (exists_foldlM_add_iff entries).1 ⟨draft, h⟩
  have hevents := value_foldlM_add_iff h .events
  simp only [Draft.value] at hevents
  unfold Json.traceItems
  cases hfind : entries.find? fun entry => decide (entry.1 ∈ Field.events.keys) with
  | none =>
      have hnone : draft.events = none := by
        refine Option.eq_none_iff_forall_ne_some.2 fun events hsome => ?_
        obtain ⟨entry, hentry, hkey, -⟩ := (hevents events).1 hsome
        simpa [hkey] using List.find?_eq_none.1 hfind entry hentry
      simp [hfind, hnone]
  | some entry =>
      have hentry := List.mem_of_find?_eq_some hfind
      have hkey : entry.1 ∈ Field.events.keys := by simpa using List.find?_some hfind
      obtain ⟨items, hitems, -⟩ := fits entry hentry .events hkey
      obtain ⟨events, hread⟩ : ∃ events : List Event, decodeEvents entry.2 = .ok events :=
        exists_decodeEvents_iff.2 (fits entry hentry .events hkey)
      have hsome : draft.events = some events := (hevents events).2 ⟨entry, hentry, hkey, hread⟩
      obtain ⟨name, found⟩ := entry
      obtain rfl : found = .arr items := hitems
      simpa [hfind, hsome] using mapM_eq_ok_iff.1 hread

/-- **The events of a document are read from its items, in order.** -/
theorem map_decode_traceItems (h : decodeParts value = .ok payload) :
    value.traceItems.map Event.decode = payload.events.map .ok := by
  cases value with
  | arr items =>
      obtain ⟨events, hevents, rfl⟩ := decodeParts_arr_eq_ok_iff.1 h
      exact mapM_eq_ok_iff.1 hevents
  | obj entries =>
      obtain ⟨draft, hdraft, rfl⟩ := decodeParts_obj_eq_ok_iff.1 h
      exact events_of_foldlM_add hdraft
  | null | bool _ | num _ | str _ => simp [decodeParts] at h

/-! ### The order of the steps -/

theorem checkOrder_eq_ok_iff {other : Payload} :
    checkOrder other = .ok payload ↔ other = payload ∧ firstDecrease 1 other.events = none := by
  unfold checkOrder
  cases firstDecrease 1 other.events <;> simp

theorem checkOrder_ne_malformed {other : Payload} {cause : DecodeError} :
    checkOrder other ≠ .error (.malformed cause) := by
  unfold checkOrder
  cases firstDecrease 1 other.events <;> simp

/-- What decoding a document comes to: its parts are read, then the order of the steps is
checked. -/
theorem decode_eq_ok_iff :
    decode value = .ok payload ↔
      decodeParts value = .ok payload ∧ firstDecrease 1 payload.events = none := by
  unfold decode
  cases hparts : decodeParts value with
  | error cause => simp
  | ok other =>
      simp only [checkOrder_eq_ok_iff, Except.ok.injEq]
      exact and_congr_right fun heq => by rw [heq]

end Payload

end TracePlayer
