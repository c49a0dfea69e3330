/-
**Either spelling will do.**

Most parts of an event and of a document have two names, and a reader takes either.  A document in
other spellings, with the same values in the same places, is therefore the same document to a
reader: it is read as the same payload, or refused for the same reason.  As long as no part is named
twice, other spellings also keep the names of an object apart, so what is read is an object again.

Main definitions:

* `Respells`: two keys name the same part, or are the same key;
* `Json.RespelledEvent`, `Json.RespelledItems`, `Json.RespelledTrace`: **documents in other
  spellings**;
* `Json.SpelledOnce`: no part of a document, or of an event in it, is named twice.

Main results:

* `Respells.names_apart`: other spellings keep the names of an object apart;
* `Event.decode_eq_of_respelled`, `Payload.decodeParts_eq_of_respelled`: an event, and a document,
  is read alike in other spellings;
* `Payload.decodeParts_around`: a list of events is read like an object around it;
* `Payload.decode_respelled`: **the spelling of a document does not matter**.
-/
import Mathlib.Data.List.Forall2
import TracePlayer.Proofs.Trace.Rewriting

set_option autoImplicit false

namespace TracePlayer

/-! ### Documents in other spellings -/

/-- Two keys name the same part, or they are the same key. -/
def Respells {κ : Type} (keys : κ → List String) (key other : String) : Prop :=
  key = other ∨ ∃ part, key ∈ keys part ∧ other ∈ keys part

namespace Json

/-- **Events in other spellings**: the keys name the same parts, and the values are the same. -/
inductive RespelledEvent : Json → Json → Prop
  | same (value : Json) : RespelledEvent value value
  | obj {entries others : List (String × Json)}
      (h : List.Forall₂ (fun entry other =>
        Respells EventField.keys entry.1 other.1 ∧ entry.2 = other.2) entries others) :
      RespelledEvent (obj entries) (obj others)

/-- Lists of events in other spellings. -/
inductive RespelledItems : Json → Json → Prop
  | same (value : Json) : RespelledItems value value
  | arr {items others : List Json} (h : List.Forall₂ RespelledEvent items others) :
      RespelledItems (arr items) (arr others)

/-- **Documents in other spellings**: the keys name the same parts, and the values are the same but
for the spellings in the events. -/
inductive RespelledTrace : Json → Json → Prop
  | items {value other : Json} (h : RespelledItems value other) : RespelledTrace value other
  | obj {entries others : List (String × Json)}
      (h : List.Forall₂ (fun entry other => Respells Payload.Field.keys entry.1 other.1 ∧
        (entry.2 = other.2 ∨
          entry.1 ∈ Payload.Field.events.keys ∧ RespelledItems entry.2 other.2)) entries others) :
      RespelledTrace (obj entries) (obj others)

/-- In a list of events, no event names a part twice. -/
def ItemsSpelledOnce (value : Json) : Prop :=
  ∀ items, value = arr items → ∀ entries, obj entries ∈ items → NamesOnce EventField.keys entries

/-- **No part of a document is named twice**, and none of an event in it. -/
def SpelledOnce (document : Json) : Prop :=
  document.ItemsSpelledOnce ∧ ∀ entries, document = obj entries →
    NamesOnce Payload.Field.keys entries ∧
      ∀ entry ∈ entries, entry.1 ∈ Payload.Field.events.keys → entry.2.ItemsSpelledOnce

end Json

/-! ### Lists that are related place by place -/

section Places

variable {α σ ε β : Type} {R : α → α → Prop} {xs ys : List α}

theorem exists_mem_of_forall₂ (h : List.Forall₂ R xs ys) {y : α} (hy : y ∈ ys) :
    ∃ x ∈ xs, R x y := by
  obtain ⟨place, hplace, rfl⟩ := List.getElem_of_mem hy
  exact ⟨_, List.getElem_mem (h.length_eq ▸ hplace), h.get _ _⟩

/-- What holds between any two items holds between those at the same places of the other list, if
it is handed on. -/
theorem pairwise_of_forall₂ {S T : α → α → Prop} (h : List.Forall₂ R xs ys) (hxs : xs.Pairwise S)
    (handed : ∀ {a b c d}, R a c → R b d → S a b → T c d) : ys.Pairwise T := by
  rw [List.pairwise_iff_getElem] at hxs ⊢
  intro i j hi hj hij
  have hlength := h.length_eq
  exact handed (h.get (hlength ▸ hi) hi) (h.get (hlength ▸ hj) hj) (hxs i j _ _ hij)

/-- A loop goes the same way through both lists if each of its steps does. -/
theorem foldlM_eq_of_forall₂ (add : σ → α → Except ε σ) (h : List.Forall₂ R xs ys)
    (hadd : ∀ draft {x y}, R x y → add draft x = add draft y) (draft : σ) :
    xs.foldlM add draft = ys.foldlM add draft := by
  induction h generalizing draft with
  | nil => rfl
  | cons hhead _ ih => simp only [List.foldlM_cons, hadd draft hhead, ih]

theorem mapM_eq_of_forall₂ {f : α → Except ε β} (h : List.Forall₂ R xs ys)
    (hf : ∀ {x y}, R x y → f x = f y) : xs.mapM f = ys.mapM f := by
  induction h with
  | nil => rfl
  | cons hhead _ ih => simp only [List.mapM_cons, hf hhead, ih]

end Places

/-! ### The names of an object -/

/-- No part is named twice if and only if the parts that the keys name are distinct. -/
theorem namesOnce_iff {κ : Type} {keys : κ → List String} {ofKey? : String → Option κ}
    (ofKey?_eq_some_iff : ∀ {key part}, ofKey? key = some part ↔ key ∈ keys part)
    {entries : List (String × Json)} :
    NamesOnce keys entries ↔ (entries.filterMap fun entry => ofKey? entry.1).Nodup := by
  rw [List.Nodup, List.pairwise_filterMap]
  simp only [ofKey?_eq_some_iff]
  refine List.Pairwise.iff fun _ _ => ⟨?_, fun h part ha hb => h part ha part hb rfl⟩
  exact fun h part ha other hb heq => h part ha (heq ▸ hb)

namespace Respells

variable {κ : Type} {keys : κ → List String} {key other : String}
  {R : String × Json → String × Json → Prop} {entries others : List (String × Json)}

/-- A key in another spelling names the same parts. -/
theorem mem_keys_iff
    (eq_of_mem_keys : ∀ {key part other}, key ∈ keys part → key ∈ keys other → part = other)
    (h : Respells keys key other) (part : κ) : key ∈ keys part ↔ other ∈ keys part := by
  obtain rfl | ⟨named, hkey, hother⟩ := h
  · rfl
  · constructor
    · exact fun hpart => eq_of_mem_keys hkey hpart ▸ hother
    · exact fun hpart => eq_of_mem_keys hother hpart ▸ hkey

/-- **Other spellings keep the names of an object apart**, if no part is named twice; and none is
named twice afterwards. -/
theorem names_apart
    (eq_of_mem_keys : ∀ {key part other}, key ∈ keys part → key ∈ keys other → part = other)
    (h : List.Forall₂ R entries others)
    (respells : ∀ {entry other}, R entry other → Respells keys entry.1 other.1)
    (nodup : (entries.map Prod.fst).Nodup) (once : NamesOnce keys entries) :
    (others.map Prod.fst).Nodup ∧ NamesOnce keys others := by
  refine ⟨List.pairwise_map.2 ?_, ?_⟩
  · refine pairwise_of_forall₂ h ((List.pairwise_map.1 nodup).and once) ?_
    intro a b c d hac hbd ⟨hne, hab⟩ hcd
    rcases respells hac with hac | ⟨part, ha, hc⟩
    · rcases respells hbd with hbd | ⟨part, hb, hd⟩
      · exact hne (hac.trans (hcd.trans hbd.symm))
      · exact hab part (hac ▸ hcd ▸ hd) hb
    · exact hab part ha ((mem_keys_iff eq_of_mem_keys (respells hbd) part).2 (hcd ▸ hc))
  · refine pairwise_of_forall₂ h once fun hac hbd hab part hc hd => ?_
    exact hab part ((mem_keys_iff eq_of_mem_keys (respells hac) part).2 hc)
      ((mem_keys_iff eq_of_mem_keys (respells hbd) part).2 hd)

end Respells

/-! ### Reading in other spellings -/

/-- An entry of an event is taken alike in another spelling. -/
theorem EventDraft.add_eq_of_respells (draft : EventDraft) {entry other : String × Json}
    (hkey : Respells EventField.keys entry.1 other.1) (hvalue : entry.2 = other.2) :
    draft.add entry = draft.add other := by
  rcases hkey with hkey | ⟨field, hentry, hother⟩
  · rw [Prod.ext hkey hvalue]
  · simp only [add, EventField.ofKey?_eq_some_iff.2 hentry, EventField.ofKey?_eq_some_iff.2 hother,
      hvalue]

/-- **An event is read alike in other spellings.** -/
theorem Event.decode_eq_of_respelled {value other : Json} (h : value.RespelledEvent other) :
    decode value = decode other := by
  cases h with
  | same => rfl
  | obj h =>
      have hfold := foldlM_eq_of_forall₂ EventDraft.add h
        (fun draft {_ _} hentry => draft.add_eq_of_respells hentry.1 hentry.2) .empty
      rw [decode, hfold, decode]

namespace Payload

variable {value other : Json}

theorem decodeEvents_eq_of_respelled (h : value.RespelledItems other) :
    decodeEvents value = decodeEvents other := by
  cases h with
  | same => rfl
  | arr h => exact mapM_eq_of_forall₂ h Event.decode_eq_of_respelled

/-- An entry of a document is taken alike in another spelling. -/
theorem Draft.add_eq_of_respells (draft : Draft) {entry other : String × Json}
    (hkey : Respells Field.keys entry.1 other.1)
    (hvalue : entry.2 = other.2 ∨ entry.1 ∈ Field.events.keys ∧ entry.2.RespelledItems other.2) :
    draft.add entry = draft.add other := by
  have hsame : ∀ field : Field, entry.1 ∈ field.keys → other.1 ∈ field.keys →
      field.read entry.2 = field.read other.2 → draft.add entry = draft.add other := by
    intro field hentry hother hread
    cases field <;> simp only [add, Field.ofKey?_eq_some_iff.2 hentry,
      Field.ofKey?_eq_some_iff.2 hother] <;> simp only [Field.read] at hread <;> rw [hread]
  rcases hvalue with hvalue | ⟨hevents, hitems⟩
  · rcases hkey with hkey | ⟨field, hentry, hother⟩
    · rw [Prod.ext hkey hvalue]
    · exact hsame field hentry hother (by rw [hvalue])
  · have hother := (Respells.mem_keys_iff Field.eq_of_mem_keys hkey .events).1 hevents
    exact hsame .events hevents hother (decodeEvents_eq_of_respelled hitems)

/-- **A document is read alike in other spellings.** -/
theorem decodeParts_eq_of_respelled (h : value.RespelledTrace other) :
    decodeParts value = decodeParts other := by
  cases h with
  | items h =>
      cases h with
      | same => rfl
      | arr h => simp only [decodeParts, decodeEvents_eq_of_respelled (.arr h)]
  | obj h =>
      have hfold := foldlM_eq_of_forall₂ Draft.add h
        (fun draft {_ _} hentry => draft.add_eq_of_respells hentry.1 hentry.2) {}
      simp only [decodeParts, hfold]

/-- Entries that name no part are passed over. -/
theorem Draft.foldlM_add_of_notMem_keys (draft : Draft) {entries : List (String × Json)}
    (h : ∀ entry ∈ entries, ∀ field : Field, entry.1 ∉ field.keys) :
    entries.foldlM Draft.add draft = .ok draft := by
  induction entries with
  | nil => rfl
  | cons entry rest ih =>
      obtain ⟨hentry, hrest⟩ := List.forall_mem_cons.1 h
      rw [List.foldlM_cons, Draft.add_of_notMem_keys hentry]
      exact ih hrest

/-- **A list of events is read like an object around it** that names no file and no source. -/
theorem decodeParts_around {before after : List (String × Json)} {key : String}
    (items : List Json) (hkey : key ∈ Field.events.keys)
    (hothers : ∀ entry ∈ before ++ after, ∀ field : Field, entry.1 ∉ field.keys) :
    decodeParts (.obj (before ++ (key, .arr items) :: after)) = decodeParts (.arr items) := by
  obtain ⟨hbefore, hafter⟩ := List.forall_mem_append.1 hothers
  simp only [decodeParts, List.foldlM_append, List.foldlM_cons,
    Draft.foldlM_add_of_notMem_keys _ hbefore, bind, Except.bind]
  simp only [Draft.add, Field.ofKey?_eq_some_iff.2 hkey]
  cases hevents : decodeEvents (.arr items) with
  | error cause => rfl
  | ok events =>
      simp only [Except.map, Draft.foldlM_add_of_notMem_keys _ hafter]
      rfl

end Payload

/-! ### Documents in other spellings are documents -/

namespace Json

variable {value other document : Json}

theorem distinct_of_respelledEvent (h : value.RespelledEvent other) (distinct : value.Distinct)
    (once : ∀ entries, value = obj entries → NamesOnce EventField.keys entries) :
    other.Distinct ∧ ∀ entries, other = obj entries → NamesOnce EventField.keys entries := by
  cases h with
  | same => exact ⟨distinct, once⟩
  | obj h =>
      cases distinct with
      | obj nodup inside =>
          obtain ⟨hnodup, honce⟩ :=
            Respells.names_apart EventField.eq_of_mem_keys h And.left nodup (once _ rfl)
          refine ⟨.obj hnodup fun entry hentry => ?_, fun _ heq => obj.inj heq ▸ honce⟩
          obtain ⟨before, hbefore, -, hvalue⟩ := exists_mem_of_forall₂ h hentry
          exact hvalue ▸ inside before hbefore

theorem distinct_of_respelledItems (h : value.RespelledItems other) (distinct : value.Distinct)
    (once : value.ItemsSpelledOnce) : other.Distinct ∧ other.ItemsSpelledOnce := by
  cases h with
  | same => exact ⟨distinct, once⟩
  | @arr items others h =>
      cases distinct with
      | arr inside =>
          have hitem : ∀ item ∈ others, item.Distinct ∧
              ∀ entries, item = obj entries → NamesOnce EventField.keys entries := by
            intro item hitem
            obtain ⟨before, hbefore, hrespelled⟩ := exists_mem_of_forall₂ h hitem
            exact distinct_of_respelledEvent hrespelled (inside before hbefore)
              fun entries heq => once items rfl entries (heq ▸ hbefore)
          refine ⟨.arr fun item hmem => (hitem item hmem).1, ?_⟩
          rintro _ ⟨⟩ entries hentries
          exact (hitem _ hentries).2 entries rfl

/-- **A document in other spellings is one again**: no object in it binds a name twice, and no part
is named twice. -/
theorem distinct_of_respelledTrace (h : document.RespelledTrace other)
    (distinct : document.Distinct) (once : document.SpelledOnce) :
    other.Distinct ∧ other.SpelledOnce := by
  cases h with
  | items h =>
      obtain ⟨hdistinct, honce⟩ := distinct_of_respelledItems h distinct once.1
      refine ⟨hdistinct, honce, ?_⟩
      cases h with
      | same => exact once.2
      | arr => exact nofun
  | @obj entries others h =>
      cases distinct with
      | obj nodup inside =>
          obtain ⟨honce, hitems⟩ := once.2 entries rfl
          obtain ⟨hnodup, honce'⟩ :=
            Respells.names_apart Payload.Field.eq_of_mem_keys h And.left nodup honce
          have hvalue : ∀ entry ∈ others, entry.2.Distinct ∧
              (entry.1 ∈ Payload.Field.events.keys → entry.2.ItemsSpelledOnce) := by
            intro entry hentry
            obtain ⟨before, hbefore, hkey, hsame | ⟨hevents, hrespelled⟩⟩ :=
              exists_mem_of_forall₂ h hentry
            · have hnames := Respells.mem_keys_iff Payload.Field.eq_of_mem_keys hkey .events
              exact hsame ▸ ⟨inside before hbefore, fun hevents =>
                hitems before hbefore (hnames.2 hevents)⟩
            · exact (distinct_of_respelledItems hrespelled (inside before hbefore)
                (hitems before hbefore hevents)).imp_right fun once _ => once
          refine ⟨.obj hnodup fun entry hentry => (hvalue entry hentry).1, nofun, ?_⟩
          rintro _ ⟨⟩
          exact ⟨honce', fun entry hentry => (hvalue entry hentry).2⟩

end Json

namespace Payload

/-- **The spelling of a document does not matter.**  A document in other spellings, with the same
values in the same places, is read with the same result, be it a payload or an error; and if no part
of it is named twice, it still is a document whose objects bind no name twice.  A list of events is
read like an object that holds it and names no file and no source. -/
theorem decode_respelled :
    (∀ document other : Json, document.RespelledTrace other →
      decode other = decode document ∧
        (document.Distinct → document.SpelledOnce → other.Distinct ∧ other.SpelledOnce)) ∧
    ∀ items before after, ∀ key ∈ Field.events.keys,
      (∀ entry ∈ before ++ after, ∀ field : Field, entry.1 ∉ field.keys) →
        decode (.obj (before ++ (key, .arr items) :: after)) = decode (.arr items) := by
  constructor
  · intro document other h
    refine ⟨?_, Json.distinct_of_respelledTrace h⟩
    simp only [decode, decodeParts_eq_of_respelled h]
  · intro items before after key hkey hothers
    simp only [decode, decodeParts_around items hkey hothers]

/-- The long document with some of its keys in their short spellings. -/
def mixedDocument : Json :=
  .obj [("sourceCode", .str "x"), ("trace", .arr [.obj [("step", .ofNat 7),
    ("event", .str "RETURN"), ("frameId", .ofNat 2), ("prev", .null), ("returnValue", .null),
    ("note", .str "n")]])]

/-- The mixed document is read as the long one, and a list of events as an object with a version. -/
theorem decode_respelled_mixedDocument :
    (longDocument.RespelledTrace mixedDocument ∧ longDocument.Distinct ∧ longDocument.SpelledOnce ∧
      (∃ payload, decode longDocument = .ok payload ∧ decode mixedDocument = .ok payload) ∧
      mixedDocument.Distinct ∧ mixedDocument.SpelledOnce) ∧
    decode (.obj [("version", .null), ("events", .arr [.null])]) = decode (.arr [.null]) := by
  have hrespelled : longDocument.RespelledTrace mixedDocument := by
    refine .obj (.cons ⟨.inl rfl, .inl rfl⟩ (.cons ⟨.inr ⟨.events, by decide, by decide⟩,
      .inr ⟨by decide, .arr (.cons (.obj ?_) .nil)⟩⟩ .nil))
    refine .cons ⟨.inl rfl, rfl⟩ (.cons ⟨.inr ⟨.kind, by decide, by decide⟩, rfl⟩ (.cons
      ⟨.inl rfl, rfl⟩ (.cons ⟨.inr ⟨.previous, by decide, by decide⟩, rfl⟩ (.cons ⟨.inl rfl, rfl⟩
      (.cons ⟨.inl rfl, rfl⟩ .nil)))))
  have hdistinct : longDocument.Distinct := by
    refine .obj (by decide) (List.forall_mem_cons.2 ⟨.str _, List.forall_mem_singleton.2 (.arr
      (List.forall_mem_singleton.2 (.obj (by decide) ?_)))⟩)
    simp only [List.forall_mem_cons]
    exact ⟨.num _, .str _, .num _, .null, .null, .str _, List.forall_mem_nil _⟩
  have honce : longDocument.SpelledOnce := by
    refine ⟨nofun, ?_⟩
    rintro _ ⟨⟩
    refine ⟨(namesOnce_iff Field.ofKey?_eq_some_iff).2 (by decide), List.forall_mem_cons.2
      ⟨fun hkey => absurd hkey (by decide), List.forall_mem_singleton.2 fun _ => ?_⟩⟩
    rintro _ ⟨⟩ entries hentries
    obtain ⟨⟩ := List.mem_singleton.1 hentries
    exact (namesOnce_iff EventField.ofKey?_eq_some_iff).2 (by decide)
  obtain ⟨hsame, hagain⟩ := decode_respelled.1 longDocument mixedDocument hrespelled
  obtain ⟨payload, hpayload⟩ : ∃ payload, decode longDocument = .ok payload := ⟨_, rfl⟩
  refine ⟨⟨hrespelled, hdistinct, honce, ⟨payload, hpayload, hsame.trans hpayload⟩,
    hagain hdistinct honce⟩, ?_⟩
  refine decode_respelled.2 [.null] [("version", .null)] [] "events" (by decide) ?_
  simp only [List.append_nil, List.forall_mem_singleton, ← Field.ofKey?_eq_none_iff]
  decide

end Payload

end TracePlayer
