/-
**Which values are events, and what is read from them.**

Main definitions:

* `EventDraft.Makes`: the event that is made of the parts read so far;
* `Event.WellFormed`, `Json.IsEvent`: **well-formed events**, as entries and as a value.

Main results:

* `EventDraft.partReader`: how the entries of an event are taken;
* `EventDraft.extra_of_foldlM`: the entries that name no part are kept in their order;
* `EventDraft.finish_eq_ok_iff`: an event is made of its parts in one way;
* `Event.exists_decode_iff`: **a value is read as an event if and only if it is well-formed**.
-/
import TracePlayer.Proofs.Trace.Field

set_option autoImplicit false

namespace TracePlayer

namespace EventDraft

variable {draft next : EventDraft} {entry : String × Json} {entries : List (String × Json)}
  {event : Event}

/-! ### Taking entries -/

theorem value_fill_self (draft : EventDraft) (field : EventField) (content : field.Value) :
    (draft.fill field content).value field = some content := by
  simp [fill]

theorem value_fill_of_ne (draft : EventDraft) (field : EventField) (content : field.Value)
    (other : EventField) (h : field ≠ other) :
    (draft.fill field content).value other = draft.value other := by
  simp [fill, h]

theorem add_of_notMem_keys (h : ∀ field : EventField, entry.1 ∉ field.keys) :
    draft.add entry = .ok { draft with extra := draft.extra.insert entry.1 entry.2 } := by
  simp only [add, EventField.ofKey?_eq_none_iff.2 h]

/-- An entry that names a part is taken if it can be read for this part and the part is empty. -/
theorem add_eq_ok_iff {field : EventField} (h : entry.1 ∈ field.keys) :
    draft.add entry = .ok next ↔
      draft.value field = none ∧
        ∃ content, field.read entry.2 = .ok content ∧ draft.fill field content = next := by
  simp only [add, EventField.ofKey?_eq_some_iff.2 h]
  exact ite_isSome_map_eq_ok_iff

/-- **How the entries of an event are taken.** -/
theorem partReader : PartReader EventField.keys EventField.read EventDraft.value add :=
  .of_fill fill EventField.eq_of_mem_keys value_fill_self value_fill_of_ne
    (fun _ _ hkey => ⟨_, add_of_notMem_keys hkey, rfl⟩) fun _ _ _ hkey _ => add_eq_ok_iff hkey

/-- **The entries that name no part are kept in their order.** -/
theorem extra_of_foldlM (h : entries.foldlM add draft = .ok next) :
    next.extra = draft.extra.overlay
      (entries.filter fun entry => (EventField.ofKey? entry.1).isNone) := by
  induction entries generalizing draft with
  | nil =>
      obtain rfl : draft = next := Except.ok.inj h
      rfl
  | cons entry rest ih =>
      obtain ⟨middle, hmiddle, hrest⟩ := PartReader.foldlM_cons_eq_ok_iff.1 h
      rw [ih hrest]
      cases hkey : EventField.ofKey? entry.1 with
      | none =>
          rw [add_of_notMem_keys (EventField.ofKey?_eq_none_iff.1 hkey)] at hmiddle
          obtain rfl := Except.ok.inj hmiddle
          simp [hkey]
      | some field =>
          obtain ⟨-, content, -, rfl⟩ :=
            (add_eq_ok_iff (EventField.ofKey?_eq_some_iff.1 hkey)).1 hmiddle
          simp [hkey, fill]

/-! ### Making the event -/

/-- **The event that is made of the parts read so far.** -/
structure Makes (draft : EventDraft) (event : Event) : Prop where
  step : draft.value .step = some event.step
  kind : draft.value .kind = some event.kind
  frame : draft.value .frame = some event.frame
  timestamp : event.timestamp = (draft.value .timestamp).getD (0 : UInt64)
  delta : event.delta = (draft.value .delta).getD (0 : UInt64)
  function : event.function = (draft.value .function).getD ""
  line : event.line = (draft.value .line).getD (0 : UInt32)
  parent : event.parent = (draft.value .parent).getD none
  depth : event.depth = (draft.value .depth).getD (0 : UInt32)
  args : event.args = (draft.value .args).getD none
  assignments : event.assignments = (draft.value .assignments).getD none
  previous : event.previous = (draft.value .previous).getD none
  returnValue : event.returnValue = draft.value .returnValue
  stdout : event.stdout = (draft.value .stdout).getD none
  extra : event.extra = draft.extra

theorem require_eq_ok_iff {field : EventField} {content : field.Value} :
    draft.require field = .ok content ↔ draft.value field = some content := by
  unfold require
  cases draft.value field <;> simp

/-- **An event is made of its parts in one way.** -/
theorem finish_eq_ok_iff : draft.finish = .ok event ↔ draft.Makes event := by
  -- Three parts must be there; whatever the others hold, there is an event then.
  constructor
  · intro h
    obtain ⟨step, hstep, h⟩ := bind_eq_ok_iff.1 h
    obtain ⟨kind, hkind, h⟩ := bind_eq_ok_iff.1 h
    obtain ⟨frame, hframe, h⟩ := bind_eq_ok_iff.1 h
    obtain rfl := Except.ok.inj h
    exact ⟨require_eq_ok_iff.1 hstep, require_eq_ok_iff.1 hkind, require_eq_ok_iff.1 hframe,
      rfl, rfl, rfl, rfl, rfl, rfl, rfl, rfl, rfl, rfl, rfl, rfl⟩
  · intro makes
    refine bind_eq_ok_iff.2 ⟨_, require_eq_ok_iff.2 makes.step, ?_⟩
    refine bind_eq_ok_iff.2 ⟨_, require_eq_ok_iff.2 makes.kind, ?_⟩
    refine bind_eq_ok_iff.2 ⟨_, require_eq_ok_iff.2 makes.frame, congrArg Except.ok ?_⟩
    cases event
    simp [← makes.timestamp, ← makes.delta, ← makes.function, ← makes.line, ← makes.parent,
      ← makes.depth, ← makes.args, ← makes.assignments, ← makes.previous, ← makes.returnValue,
      ← makes.stdout, ← makes.extra]

/-- The parts that must be there. -/
def required : List EventField := [.step, .kind, .frame]

theorem exists_finish_iff :
    (∃ event, draft.finish = .ok event) ↔
      ∀ field ∈ required, ∃ content, draft.value field = some content := by
  constructor
  · rintro ⟨event, h⟩
    have makes := finish_eq_ok_iff.1 h
    simp only [required, List.forall_mem_cons]
    exact ⟨⟨_, makes.step⟩, ⟨_, makes.kind⟩, ⟨_, makes.frame⟩, by simp⟩
  · intro h
    simp only [required, List.forall_mem_cons] at h
    obtain ⟨⟨step, hstep⟩, ⟨kind, hkind⟩, ⟨frame, hframe⟩, -⟩ := h
    exact ⟨_, bind_eq_ok_iff.2 ⟨step, require_eq_ok_iff.2 hstep, bind_eq_ok_iff.2
      ⟨kind, require_eq_ok_iff.2 hkind, bind_eq_ok_iff.2
      ⟨frame, require_eq_ok_iff.2 hframe, rfl⟩⟩⟩⟩

end EventDraft

/-! ### Well-formed events -/

/-- **Well-formed entries of an event**: each part is there at most once and in its shape, and the
parts that must be there are there. -/
structure Event.WellFormed (entries : List (String × Json)) : Prop where
  /-- No part is there twice, be it under two spellings. -/
  once : NamesOnce EventField.keys entries
  /-- Each part has its shape. -/
  fits : ∀ entry ∈ entries, ∀ field : EventField, entry.1 ∈ field.keys → field.Fits entry.2
  /-- A step number, a kind and a frame are there. -/
  required : ∀ field ∈ EventDraft.required, ∃ entry ∈ entries, entry.1 ∈ field.keys

/-- A value is a well-formed event. -/
def Json.IsEvent (value : Json) : Prop := ∃ entries, value = .obj entries ∧ Event.WellFormed entries

namespace Event

variable {value : Json} {event : Event}

/-- What decoding an event comes to: its entries are read one after the other, and the event is made
of the parts. -/
theorem decode_eq_ok_iff :
    decode value = .ok event ↔ ∃ entries draft, value = .obj entries ∧
      entries.foldlM EventDraft.add .empty = .ok draft ∧ draft.Makes event := by
  cases value with
  | obj entries =>
      simp only [decode, bind_eq_ok_iff, EventDraft.finish_eq_ok_iff, Json.obj.injEq,
        exists_and_left, exists_eq_left']
  | _ => simp [decode]

/-- Which entries are read at all. -/
theorem exists_foldlM_add_iff (entries : List (String × Json)) :
    (∃ draft, entries.foldlM EventDraft.add .empty = .ok draft) ↔
      (∀ entry ∈ entries, ∀ field : EventField, entry.1 ∈ field.keys → field.Fits entry.2) ∧
        NamesOnce EventField.keys entries := by
  rw [EventDraft.partReader.exists_foldlM_iff]
  simp only [EventDraft.empty, true_and, EventField.exists_read_iff]

/-- What a part holds after the entries of an event were read. -/
theorem value_foldlM_add_iff {entries : List (String × Json)} {draft : EventDraft}
    (h : entries.foldlM EventDraft.add .empty = .ok draft) (field : EventField)
    (content : field.Value) :
    draft.value field = some content ↔
      ∃ entry ∈ entries, entry.1 ∈ field.keys ∧ field.read entry.2 = .ok content := by
  rw [EventDraft.partReader.get_foldlM_iff h]
  simp [EventDraft.empty]

/-- A part that an entry names holds what is read from this entry. -/
theorem exists_value_of_mem {entries : List (String × Json)} {draft : EventDraft}
    (hfold : entries.foldlM EventDraft.add .empty = .ok draft) {entry : String × Json}
    (hentry : entry ∈ entries) {field : EventField} (hkey : entry.1 ∈ field.keys) :
    ∃ content, field.read entry.2 = .ok content ∧ draft.value field = some content := by
  obtain ⟨fits, -⟩ := (exists_foldlM_add_iff entries).1 ⟨draft, hfold⟩
  obtain ⟨content, hread⟩ := (field.exists_read_iff entry.2).2 (fits entry hentry field hkey)
  exact ⟨content, hread, (value_foldlM_add_iff hfold field content).2 ⟨entry, hentry, hkey, hread⟩⟩

/-- **A value is read as an event if and only if it is well-formed.** -/
theorem exists_decode_iff : (∃ event, decode value = .ok event) ↔ value.IsEvent := by
  simp only [decode_eq_ok_iff, Json.IsEvent]
  constructor
  · rintro ⟨event, entries, draft, rfl, hfold, makes⟩
    obtain ⟨fits, once⟩ := (exists_foldlM_add_iff entries).1 ⟨draft, hfold⟩
    refine ⟨entries, rfl, once, fits, fun field hfield => ?_⟩
    have hfinish := EventDraft.exists_finish_iff.1 ⟨event, EventDraft.finish_eq_ok_iff.2 makes⟩
    obtain ⟨content, hcontent⟩ := hfinish field hfield
    obtain ⟨entry, hentry, hkey, -⟩ := (value_foldlM_add_iff hfold field content).1 hcontent
    exact ⟨entry, hentry, hkey⟩
  · rintro ⟨entries, rfl, wf⟩
    obtain ⟨draft, hfold⟩ := (exists_foldlM_add_iff entries).2 ⟨wf.fits, wf.once⟩
    have hrequired : ∀ field ∈ EventDraft.required,
        ∃ content, draft.value field = some content := by
      intro field hfield
      obtain ⟨entry, hentry, hkey⟩ := wf.required field hfield
      obtain ⟨content, -, hvalue⟩ := exists_value_of_mem hfold hentry hkey
      exact ⟨content, hvalue⟩
    obtain ⟨event, hevent⟩ := EventDraft.exists_finish_iff.2 hrequired
    exact ⟨event, entries, draft, rfl, hfold, EventDraft.finish_eq_ok_iff.1 hevent⟩

end Event

end TracePlayer
