/-
**Events and documents are read back from what is written for them.**

An event is written as one entry for each part with a content, followed by its further entries.  It
is read back unless its further entries or its kind would be taken for something else.  Neither can
happen to an event that was itself read, so every document that is read once is read again from what
is written for it.

Main definitions:

* `Event.content`: what each part of an event holds;
* `Event.Readable`: **the events that are read back**.

Main results:

* `Event.entries_eq`: the entries of an event, part by part;
* `Event.decode_encode_iff`: **an event is read back if and only if it is readable**;
* `Event.readable_of_decode`: whatever is read is readable;
* `Payload.decode_encode`: **a document that was read is read back**.
-/
import TracePlayer.Proofs.Trace.Document

set_option autoImplicit false

namespace TracePlayer

namespace Event

variable {event : Event}

/-! ### What is written -/

/-- What each part of an event holds; the parts that may be left out hold nothing if they are. -/
def content (event : Event) : (field : EventField) → Option field.Value
  | .step => some event.step
  | .timestamp => some event.timestamp
  | .delta => some event.delta
  | .kind => some event.kind
  | .function => some event.function
  | .line => some event.line
  | .frame => some event.frame
  | .parent => some event.parent
  | .depth => some event.depth
  | .args => event.args.map some
  | .assignments => event.assignments.map some
  | .previous => event.previous.map some
  | .returnValue => event.returnValue
  | .stdout => event.stdout.map some

/-- The entry that is written for a part: none if the part holds nothing. -/
def entriesOf (event : Event) (field : EventField) : List (String × Json) :=
  ((event.content field).map fun content => (field.name, field.write content)).toList

theorem mem_entriesOf_iff {field : EventField} {entry : String × Json} :
    entry ∈ event.entriesOf field ↔
      ∃ content, event.content field = some content ∧
        (field.name, field.write content) = entry := by
  rw [entriesOf, Option.mem_toList, Option.map_eq_some_iff]

/-- An entry that is written only if it is there, as the entry of a part. -/
theorem optionalEntry_eq {α : Type} (field : EventField) (encode : α → Json) (slot : Option α) :
    optionalEntry field encode slot =
      ((slot.map some).map fun content => (field.name, Json.ofOption encode content)).toList := by
  cases slot <;> rfl

/-- **The entries of an event**: one for each part with a content, then the further ones. -/
theorem entries_eq (event : Event) :
    event.entries = EventField.all.flatMap event.entriesOf ++ event.extra.toList := by
  -- The value returned is written as it is; the other parts that may be left out are never `null`.
  have hreturn :
      optionalEntry .returnValue id event.returnValue = event.entriesOf .returnValue := by
    unfold optionalEntry entriesOf content
    cases event.returnValue <;> rfl
  rw [entries, hreturn, optionalEntry_eq, optionalEntry_eq, optionalEntry_eq, optionalEntry_eq]
  simp only [EventField.all, List.flatMap_cons, List.flatMap_nil, List.append_assoc]
  rfl

theorem getD_map_some {α : Type} (slot : Option α) : slot = (slot.map some).getD none := by
  cases slot <;> rfl

/-- An event is made of its own contents. -/
theorem makes_content (event : Event) : EventDraft.Makes ⟨event.content, event.extra⟩ event where
  step := rfl
  kind := rfl
  frame := rfl
  timestamp := rfl
  delta := rfl
  function := rfl
  line := rfl
  parent := rfl
  depth := rfl
  args := getD_map_some event.args
  assignments := getD_map_some event.assignments
  previous := getD_map_some event.previous
  returnValue := rfl
  stdout := getD_map_some event.stdout
  extra := rfl

/-! ### Events that are read back -/

/-- **The events that are read back**: their kind is the one that its spelling stands for, and none
of their further entries has a name that is a spelling of a part. -/
structure Readable (event : Event) : Prop where
  /-- The kind is not an unknown one with the spelling of a known one. -/
  kind : event.kind.Canonical
  /-- The further entries are no parts. -/
  extra : ∀ name ∈ event.extra.names, ∀ field : EventField, name ∉ field.keys

namespace Readable

/-- The entry of a part is read back. -/
theorem read_write (readable : event.Readable) {field : EventField} {content : field.Value}
    (h : event.content field = some content) : field.read (field.write content) = .ok content := by
  by_cases hkind : field = .kind
  · subst hkind
    obtain rfl : event.kind = content := Option.some_inj.1 h
    exact EventField.read_write_kind readable.kind
  · exact EventField.read_write content hkind

/-- A further entry names no part. -/
theorem notMem_keys (readable : event.Readable) {entry : String × Json}
    (hentry : entry ∈ event.extra.toList) (field : EventField) : entry.1 ∉ field.keys :=
  readable.extra entry.1 (List.mem_map_of_mem hentry) field

/-- The entries that name a part are those written for it. -/
theorem mem_entries_iff (readable : event.Readable) {entry : String × Json} {field : EventField} :
    entry ∈ event.entries ∧ entry.1 ∈ field.keys ↔ entry ∈ event.entriesOf field := by
  rw [entries_eq, List.mem_append, List.mem_flatMap]
  constructor
  · rintro ⟨⟨other, -, hother⟩ | hextra, hkey⟩
    · obtain ⟨content, -, rfl⟩ := mem_entriesOf_iff.1 hother
      obtain rfl := EventField.eq_of_mem_keys other.name_mem_keys hkey
      exact hother
    · exact absurd hkey (readable.notMem_keys hextra field)
  · intro hentry
    refine ⟨.inl ⟨field, field.mem_all, hentry⟩, ?_⟩
    obtain ⟨content, -, rfl⟩ := mem_entriesOf_iff.1 hentry
    exact field.name_mem_keys

/-- No part is written twice. -/
theorem namesOnce_entries (readable : event.Readable) :
    NamesOnce EventField.keys event.entries := by
  rw [entries_eq, NamesOnce, List.pairwise_append, List.pairwise_flatMap]
  refine ⟨⟨fun field _ => ?_, ?_⟩, ?_, ?_⟩
  · unfold entriesOf
    cases event.content field <;> simp
  · have hall : EventField.all.Pairwise (· ≠ ·) := by decide
    refine hall.imp fun {first second} hne a ha b hb field hfirst hsecond => hne ?_
    obtain ⟨_, -, rfl⟩ := mem_entriesOf_iff.1 ha
    obtain ⟨_, -, rfl⟩ := mem_entriesOf_iff.1 hb
    exact (EventField.eq_of_mem_keys first.name_mem_keys hfirst).trans
      (EventField.eq_of_mem_keys hsecond second.name_mem_keys)
  · exact List.pairwise_of_forall_mem_list fun a ha _ _ field hkey =>
      absurd hkey (readable.notMem_keys ha field)
  · exact fun _ _ b hb field _ => readable.notMem_keys hb field

/-- The entries that name no part are the further ones. -/
theorem filter_entries (readable : event.Readable) :
    event.entries.filter (fun entry => (EventField.ofKey? entry.1).isNone) =
      event.extra.toList := by
  have hparts : (EventField.all.flatMap event.entriesOf).filter
      (fun entry => (EventField.ofKey? entry.1).isNone) = [] := by
    refine List.filter_eq_nil_iff.2 fun entry hentry => ?_
    obtain ⟨field, -, hfield⟩ := List.mem_flatMap.1 hentry
    obtain ⟨content, -, rfl⟩ := mem_entriesOf_iff.1 hfield
    simp [EventField.ofKey?_eq_some_iff.2 field.name_mem_keys]
  have hextra : event.extra.toList.filter
      (fun entry => (EventField.ofKey? entry.1).isNone) = event.extra.toList := by
    refine List.filter_eq_self.2 fun entry hentry => ?_
    simp [EventField.ofKey?_eq_none_iff.2 (readable.notMem_keys hentry)]
  rw [entries_eq, List.filter_append, hparts, hextra, List.nil_append]

/-- The entries are read. -/
theorem exists_foldlM (readable : event.Readable) :
    ∃ draft, event.entries.foldlM EventDraft.add .empty = .ok draft := by
  refine (exists_foldlM_add_iff event.entries).2 ⟨?_, readable.namesOnce_entries⟩
  intro entry hentry field hkey
  obtain ⟨content, hcontent, rfl⟩ :=
    mem_entriesOf_iff.1 (readable.mem_entries_iff.1 ⟨hentry, hkey⟩)
  exact (field.exists_read_iff _).1 ⟨content, readable.read_write hcontent⟩

/-- Afterwards every part holds what it held before. -/
theorem eq_of_foldlM (readable : event.Readable) {draft : EventDraft}
    (hfold : event.entries.foldlM EventDraft.add .empty = .ok draft) :
    draft = ⟨event.content, event.extra⟩ := by
  have hvalue : draft.value = event.content := by
    refine funext fun field => Option.ext fun content => ?_
    rw [value_foldlM_add_iff hfold]
    constructor
    · rintro ⟨entry, hentry, hkey, hread⟩
      obtain ⟨written, hwritten, rfl⟩ :=
        mem_entriesOf_iff.1 (readable.mem_entries_iff.1 ⟨hentry, hkey⟩)
      rw [readable.read_write hwritten] at hread
      rw [hwritten, Except.ok.inj hread]
    · intro hcontent
      obtain ⟨hentry, hkey⟩ :=
        readable.mem_entries_iff.2 (mem_entriesOf_iff.2 ⟨content, hcontent, rfl⟩)
      exact ⟨_, hentry, hkey, readable.read_write hcontent⟩
  have hextra : draft.extra = event.extra := by
    rw [EventDraft.extra_of_foldlM hfold, readable.filter_entries]
    exact Bindings.ofPairs_toList event.extra
  rw [← hvalue, ← hextra]

end Readable

/-- **A readable event is read back.** -/
theorem decode_encode (readable : event.Readable) : decode event.encode = .ok event := by
  obtain ⟨draft, hfold⟩ := readable.exists_foldlM
  refine decode_eq_ok_iff.2 ⟨event.entries, draft, rfl, hfold, ?_⟩
  rw [readable.eq_of_foldlM hfold]
  exact makes_content event

/-- **Whatever is read is readable.** -/
theorem readable_of_decode {value : Json} (h : decode value = .ok event) : event.Readable := by
  obtain ⟨entries, draft, -, hfold, makes⟩ := decode_eq_ok_iff.1 h
  constructor
  case kind =>
      obtain ⟨entry, -, -, hread⟩ := (value_foldlM_add_iff hfold .kind event.kind).1 makes.kind
      exact EventField.canonical_of_read hread
  case extra =>
      intro name hname
      have hnames : event.extra.names = ((entries.filter fun entry =>
          (EventField.ofKey? entry.1).isNone).map Prod.fst).eraseDups := by
        rw [makes.extra, EventDraft.extra_of_foldlM hfold]
        exact Bindings.names_ofPairs _
      rw [hnames, List.mem_eraseDups, List.mem_map] at hname
      obtain ⟨entry, hentry, rfl⟩ := hname
      have hnone := (List.mem_filter.1 hentry).2
      exact EventField.ofKey?_eq_none_iff.1 (Option.isNone_iff_eq_none.1 hnone)

/-- **An event is read back if and only if it is readable.** -/
theorem decode_encode_iff : decode event.encode = .ok event ↔ event.Readable :=
  ⟨readable_of_decode, decode_encode⟩

end Event

namespace Payload

variable {payload : Payload}

/-! ### Documents that are read back -/

/-- A document is read back, whatever the order of its steps, if each of its events is. -/
theorem decodeParts_encode (readable : ∀ event ∈ payload.events, event.Readable) :
    decodeParts payload.encode = .ok payload := by
  have hevents : decodeEvents (.arr (payload.events.map Event.encode)) = .ok payload.events := by
    rw [decodeEvents, mapM_eq_ok_iff, List.map_map]
    refine List.map_congr_left fun event hevent => ?_
    rw [Function.comp_apply]
    exact Event.decode_encode (readable event hevent)
  refine decodeParts_obj_eq_ok_iff.2
    ⟨⟨some payload.filename, some payload.source, some payload.events⟩, ?_, rfl⟩
  simp only [PartReader.foldlM_cons_eq_ok_iff]
  exact ⟨_, Draft.add_name .filename rfl (Json.toText_str payload.filename),
    _, Draft.add_name .source rfl (Json.toText_str payload.source),
    _, Draft.add_name .events rfl hevents, rfl⟩

/-- The events of a document that was read are readable. -/
theorem readable_of_decode {value : Json} (h : decode value = .ok payload) :
    ∀ event ∈ payload.events, event.Readable := by
  intro event hevent
  have hitem : Except.ok event ∈ value.traceItems.map Event.decode := by
    rw [map_decode_traceItems (decode_eq_ok_iff.1 h).1]
    exact List.mem_map_of_mem hevent
  obtain ⟨item, -, hdecode⟩ := List.mem_map.1 hitem
  exact Event.readable_of_decode hdecode

/-- **A document that was read is read back.** -/
theorem decode_encode {value : Json} (h : decode value = .ok payload) :
    decode payload.encode = .ok payload :=
  -- The steps are the same and were found in order; only the events have to be readable.
  decode_eq_ok_iff.2 ⟨decodeParts_encode (readable_of_decode h), (decode_eq_ok_iff.1 h).2⟩

/-- **What was read is written so that it is read again as the same**: a document, and an event if
and only if it is readable, which every event is that was itself read. -/
theorem readsBack_of_decode :
    (∀ value payload, decode value = .ok payload → decode payload.encode = .ok payload) ∧
      (∀ event : Event, Event.decode event.encode = .ok event ↔ event.Readable) ∧
      ∀ value event, Event.decode value = .ok event → event.Readable :=
  ⟨fun _ _ => decode_encode, fun _ => Event.decode_encode_iff, fun _ _ => Event.readable_of_decode⟩

/-- A document in the long spellings, with one event that returns `null` and has a note. -/
def longDocument : Json :=
  .obj [("sourceCode", .str "x"), ("events", .arr [.obj [("step", .ofNat 7),
    ("kind", .str "RETURN"), ("frameId", .ofNat 2), ("previous", .null), ("returnValue", .null),
    ("note", .str "n")]])]

/-- The long document is read back, and so is a plain call, but not an event whose kind is unknown
and yet spelled like a known one, nor one with a further entry in the place of its arguments. -/
theorem readsBack_longDocument :
    (∃ payload, decode longDocument = .ok payload ∧ decode payload.encode = .ok payload) ∧
      Event.decode (Event.plain 0 .call 0).encode = .ok (Event.plain 0 .call 0) ∧
      Event.decode (Event.plain 0 (.other "call") 0).encode ≠
        .ok (Event.plain 0 (.other "call") 0) ∧
      Event.decode { Event.plain 0 .call 0 with extra := .ofPairs [("args", .null)] }.encode ≠
        .ok { Event.plain 0 .call 0 with extra := .ofPairs [("args", .null)] } := by
  have hread : ∃ payload, decode longDocument = .ok payload := ⟨_, rfl⟩
  obtain ⟨payload, hpayload⟩ := hread
  refine ⟨⟨payload, hpayload, readsBack_of_decode.1 _ _ hpayload⟩, ?_, ?_, ?_⟩
  · exact (readsBack_of_decode.2.1 _).2 ⟨nofun, fun _ hname => absurd hname List.not_mem_nil⟩
  · intro h
    exact ((readsBack_of_decode.2.1 _).1 h).kind "call" rfl .call (by decide) (by decide)
  · intro h
    exact ((readsBack_of_decode.2.1 _).1 h).extra "args" (by decide) .args (by decide)

end Payload

end TracePlayer
