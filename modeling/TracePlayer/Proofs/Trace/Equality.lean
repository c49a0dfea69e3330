/-
**Equal events are written as equal objects.**

An event that is read back can be told from every other one by what is written for it: each part has
an entry of its own, and two contents of a part are written as equal values only if they are equal.

Main definitions:

* `Event.AgreeIn`: two events agree in a part;
* `Event.written`: what is written for a part.

Main results:

* `Event.same_written_iff`: **readable events agree in a part if and only if equal values are
  written for it**;
* `Event.same_encode_iff`: **readable events are written as equal objects if and only if they are
  equal**.
-/
import TracePlayer.Proofs.Json.Objects
import TracePlayer.Proofs.Trace.RoundTrip

set_option autoImplicit false

namespace TracePlayer

/-! ### Contents -/

/-- Kinds that their own spellings stand for are told apart by them. -/
theorem Kind.name_inj {kind other : Kind} (hkind : kind.Canonical) (hother : other.Canonical) :
    kind.name = other.name ↔ kind = other := by
  refine ⟨fun h => ?_, congrArg Kind.name⟩
  rw [← Kind.ofName_name hkind, h, Kind.ofName_name hother]

namespace Event

variable {x y event : Event}

theorem same_wordJson_iff {a b : UInt64} :
    Json.same (wordJson a) (wordJson b) = true ↔ a = b :=
  Json.same_ofNat_iff.trans UInt64.toNat_inj

theorem same_ofOption_wordJson_iff {a b : Option UInt64} :
    Json.same (.ofOption wordJson a) (.ofOption wordJson b) = true ↔ a = b := by
  have hnull : ∀ word, wordJson word ≠ .null := nofun
  rw [Json.same_ofOption hnull, Json.sameOption_map_iff same_wordJson_iff]

/-- Equal bindings are written as equal objects. -/
theorem same_bindingsJson (xs ys : Bindings Json) :
    Json.same (bindingsJson xs) (bindingsJson ys) = Json.sameBindings xs ys := by
  simp only [bindingsJson, Json.same, Json.sameBindings]

theorem sameOption_map_bindingsJson (a b : Option (Bindings Json)) :
    Json.sameOption (a.map bindingsJson) (b.map bindingsJson) = sameBindings? a b := by
  cases a <;> cases b <;> simp [Json.sameOption, sameBindings?, same_bindingsJson]

/-! ### Parts -/

/-- **Two events agree in a part.** -/
def AgreeIn (x y : Event) : EventField → Prop
  | .step => x.step = y.step
  | .timestamp => x.timestamp = y.timestamp
  | .delta => x.delta = y.delta
  | .kind => x.kind = y.kind
  | .function => x.function = y.function
  | .line => x.line = y.line
  | .frame => x.frame = y.frame
  | .parent => x.parent = y.parent
  | .depth => x.depth = y.depth
  | .args => sameBindings? x.args y.args = true
  | .assignments => sameBindings? x.assignments y.assignments = true
  | .previous => sameBindings? x.previous y.previous = true
  | .returnValue => Json.sameOption x.returnValue y.returnValue = true
  | .stdout => x.stdout = y.stdout

/-- Events are equal if they agree in every part, and in their further entries. -/
theorem same_iff_agreeIn :
    x.same y = true ↔
      (∀ field ∈ EventField.all, x.AgreeIn y field) ∧ Json.sameBindings x.extra y.extra = true := by
  simp [Event.same, EventField.all, AgreeIn, and_assoc]

/-- What is written for a part, if the part holds anything. -/
def written (event : Event) (field : EventField) : Option Json :=
  (event.content field).map field.write

/-- **Readable events agree in a part if and only if equal values are written for it.** -/
theorem same_written_iff (hx : x.Readable) (hy : y.Readable) (field : EventField) :
    Json.sameOption (x.written field) (y.written field) = true ↔ x.AgreeIn y field := by
  cases field with
  | step | timestamp | delta | frame => exact same_wordJson_iff
  | kind => exact Json.same_str_iff.trans (Kind.name_inj hx.kind hy.kind)
  | function => exact Json.same_str_iff
  | line | depth => exact Json.same_ofNat_iff.trans UInt32.toNat_inj
  | parent => exact same_ofOption_wordJson_iff
  | args | assignments | previous =>
      exact Bool.eq_iff_iff.1 ((Json.sameOption_map_ofOption bindingsJson _ _).trans
        (sameOption_map_bindingsJson _ _))
  | returnValue =>
      have hwritten (event : Event) : event.written .returnValue = event.returnValue :=
        Option.map_id'
      rw [hwritten, hwritten]
      rfl
  | stdout =>
      exact (Bool.eq_iff_iff.1 (Json.sameOption_map_ofOption .str _ _)).trans
        (Json.sameOption_map_iff Json.same_str_iff)

/-! ### Events -/

theorem name_of_mem_entriesOf {field : EventField} {entry : String × Json}
    (h : entry ∈ event.entriesOf field) : entry.1 = field.name := by
  obtain ⟨content, -, rfl⟩ := mem_entriesOf_iff.1 h
  rfl

/-- The entries of one part. -/
theorem same_entriesOf (x y : Event) (field : EventField) :
    Json.same (.obj (x.entriesOf field)) (.obj (y.entriesOf field)) =
      Json.sameOption (x.written field) (y.written field) := by
  unfold entriesOf written
  cases x.content field <;> cases y.content field <;>
    simp [Json.same, Json.sameFields, Json.bindsAll, Json.sameOption]

/-- The entries of some parts: their names tell the parts from each other. -/
theorem same_flatMap_entriesOf_iff {fields : List EventField} (distinct : fields.Nodup) :
    Json.same (.obj (fields.flatMap x.entriesOf)) (.obj (fields.flatMap y.entriesOf)) = true ↔
      ∀ field ∈ fields, Json.sameOption (x.written field) (y.written field) = true := by
  induction fields with
  | nil => exact iff_of_true rfl (by simp)
  | cons field rest ih =>
      obtain ⟨hfield, hrest⟩ := List.nodup_cons.1 distinct
      have hothers (event : Event) :
          ∀ entry ∈ rest.flatMap event.entriesOf, ¬ entry.1 = field.name := by
        intro entry hentry hname
        obtain ⟨other, hother, hmem⟩ := List.mem_flatMap.1 hentry
        have hsame : other.name = field.name := (name_of_mem_entriesOf hmem).symm.trans hname
        have heq : other = field :=
          EventField.eq_of_mem_keys other.name_mem_keys (hsame ▸ field.name_mem_keys)
        exact hfield (heq ▸ hother)
      rw [List.flatMap_cons, List.flatMap_cons, List.forall_mem_cons, ← ih hrest, ← same_entriesOf]
      exact Json.same_obj_append_iff (· = field.name) (fun _ => name_of_mem_entriesOf)
        (fun _ => name_of_mem_entriesOf) (hothers x) (hothers y)

/-- **Readable events are written as equal objects if and only if they are equal.** -/
theorem same_encode_iff (hx : x.Readable) (hy : y.Readable) :
    Json.same x.encode y.encode = true ↔ x.same y = true := by
  have hparts (event : Event) : ∀ entry ∈ EventField.all.flatMap event.entriesOf,
      ∃ field : EventField, entry.1 ∈ field.keys := by
    intro entry hentry
    obtain ⟨field, -, hmem⟩ := List.mem_flatMap.1 hentry
    exact ⟨field, name_of_mem_entriesOf hmem ▸ field.name_mem_keys⟩
  have hextra {event : Event} (readable : event.Readable) : ∀ entry ∈ event.extra.toList,
      ¬ ∃ field : EventField, entry.1 ∈ field.keys :=
    fun _ hentry ⟨field, hkey⟩ => readable.notMem_keys hentry field hkey
  rw [encode, encode, entries_eq, entries_eq, same_iff_agreeIn,
    Json.same_obj_append_iff (fun name => ∃ field : EventField, name ∈ field.keys) (hparts x)
      (hparts y) (hextra hx) (hextra hy), same_flatMap_entriesOf_iff (by decide),
    ← same_bindingsJson]
  refine and_congr_left fun _ => forall₂_congr fun field _ => ?_
  exact same_written_iff hx hy field

end Event

end TracePlayer
