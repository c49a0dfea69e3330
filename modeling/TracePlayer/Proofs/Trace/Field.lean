/-
**The parts of an event, one at a time.**

A key names at most one part, and which values a part can be read from is a matter of the value
alone.  What is written for the content of a part is read back as that content.

Main definitions:

* `EventField.keys`: **the spellings of a part**;
* `Json.IsWord`, `Json.IsText`, `Json.IsObject`: values of a simple shape;
* `EventField.Fits`: **which values stand for a part**;
* `EventField.write`: the value that is written for the content of a part;
* `Kind.Canonical`: a kind that its own spelling stands for.

Main results:

* `EventField.ofKey?_eq_some_iff`: a key names one part only;
* `EventField.exists_read_iff`: a part is read from the values that fit it, and from no others;
* `EventField.read_write`: what is written for a part is read back.
-/
import TracePlayer.Trace.Codec
import TracePlayer.Proofs.Bindings
import TracePlayer.Proofs.Json.Parts

set_option autoImplicit false

namespace TracePlayer

/-! ### Keys -/

namespace EventField

theorem mem_all (field : EventField) : field ∈ all := by
  cases field <;> decide

/-- **The spellings of a part.** -/
def keys : EventField → List String
  | step => ["step"]
  | timestamp => ["ts", "timestamp"]
  | delta => ["dt", "deltaTime"]
  | kind => ["event", "kind"]
  | function => ["func", "functionName"]
  | line => ["line", "sourceLine"]
  | frame => ["fid", "frameId"]
  | parent => ["parent", "parentFrameId"]
  | depth => ["depth"]
  | args => ["args"]
  | assignments => ["set", "assignments"]
  | previous => ["prev", "previous"]
  | returnValue => ["ret", "returnValue"]
  | stdout => ["out+", "stdout"]

theorem hasKey_iff {field : EventField} {key : String} :
    field.hasKey key = true ↔ key ∈ field.keys := by
  have hkeys : field.keys = field.name :: field.alias?.toList := by cases field <;> rfl
  rw [hasKey, hkeys, name_or_alias_iff]

/-- No key is a spelling of two parts. -/
theorem eq_of_mem_keys {key : String} {field other : EventField} (hfield : key ∈ field.keys)
    (hother : key ∈ other.keys) : field = other := by
  have hall : ∀ a ∈ all, ∀ b ∈ all, ∀ key ∈ a.keys, key ∈ b.keys → a = b := by decide +kernel
  exact hall field field.mem_all other other.mem_all key hfield hother

/-- **A key names one part only**, the one it is a spelling of. -/
theorem ofKey?_eq_some_iff {field : EventField} {key : String} :
    ofKey? key = some field ↔ key ∈ field.keys := by
  rw [← hasKey_iff]
  exact find?_eq_some_iff_of_unique
    (fun hfield hother => eq_of_mem_keys (hasKey_iff.1 hfield) (hasKey_iff.1 hother)) field.mem_all

/-- A key that no part is spelled with names none. -/
theorem ofKey?_eq_none_iff {key : String} :
    ofKey? key = none ↔ ∀ field : EventField, key ∉ field.keys := by
  simp only [Option.eq_none_iff_forall_ne_some, ne_eq, ofKey?_eq_some_iff]

theorem name_mem_keys (field : EventField) : field.name ∈ field.keys := by
  cases field <;> exact List.mem_cons_self

end EventField

/-! ### Values of a simple shape -/

namespace Json

/-- A whole number from `0` up to a bound. -/
def IsWord (bound : Nat) (value : Json) : Prop := ∃ n : Nat, n < bound ∧ value = num (.int n)

/-- A string. -/
def IsText (value : Json) : Prop := ∃ text, value = str text

/-- An object. -/
def IsObject (value : Json) : Prop := ∃ fields, value = obj fields

theorem toWord64_eq_ok_iff {value : Json} {word : UInt64} :
    value.toWord64 = .ok word ↔ value = num (.int word.toNat) := by
  unfold toWord64
  split
  · next n =>
      have hlt := word.toNat_lt_size
      split
      · next hrange =>
          simp only [Except.ok.injEq, num.injEq, Number.int.injEq]
          constructor
          · rintro rfl
            rw [UInt64.toNat_ofNat_of_lt' (by omega)]
            omega
          · rintro rfl
            simp
      · next hrange =>
          simp only [reduceCtorEq, num.injEq, Number.int.injEq, false_iff]
          omega
  · next hnum => exact iff_of_false (by simp) (hnum _)

theorem toWord32_eq_ok_iff {value : Json} {word : UInt32} :
    value.toWord32 = .ok word ↔ value = num (.int word.toNat) := by
  unfold toWord32
  split
  · next n =>
      have hlt := word.toNat_lt_size
      split
      · next hrange =>
          simp only [Except.ok.injEq, num.injEq, Number.int.injEq]
          constructor
          · rintro rfl
            rw [UInt32.toNat_ofNat_of_lt' (by omega)]
            omega
          · rintro rfl
            simp
      · next hrange =>
          simp only [reduceCtorEq, num.injEq, Number.int.injEq, false_iff]
          omega
  · next hnum => exact iff_of_false (by simp) (hnum _)

theorem exists_toWord64_iff {value : Json} :
    (∃ word, value.toWord64 = .ok word) ↔ value.IsWord UInt64.size := by
  simp only [toWord64_eq_ok_iff]
  constructor
  · rintro ⟨word, rfl⟩
    exact ⟨word.toNat, word.toNat_lt_size, rfl⟩
  · rintro ⟨n, hn, rfl⟩
    exact ⟨UInt64.ofNat n, by rw [UInt64.toNat_ofNat_of_lt' hn]⟩

theorem exists_toWord32_iff {value : Json} :
    (∃ word, value.toWord32 = .ok word) ↔ value.IsWord UInt32.size := by
  simp only [toWord32_eq_ok_iff]
  constructor
  · rintro ⟨word, rfl⟩
    exact ⟨word.toNat, word.toNat_lt_size, rfl⟩
  · rintro ⟨n, hn, rfl⟩
    exact ⟨UInt32.ofNat n, by rw [UInt32.toNat_ofNat_of_lt' hn]⟩

theorem exists_toText_iff {value : Json} : (∃ text, value.toText = .ok text) ↔ value.IsText := by
  cases value <;> simp [toText, IsText]

theorem exists_toBindings_iff {value : Json} :
    (∃ bindings, value.toBindings = .ok bindings) ↔ value.IsObject := by
  cases value <;> simp [toBindings, IsObject]

theorem exists_orNull_iff {α : Type} {read : Json → Except DecodeError α} {value : Json} :
    (∃ content, value.orNull read = .ok content) ↔
      value = null ∨ ∃ content, read value = .ok content := by
  cases value with
  | null => exact iff_of_true ⟨none, rfl⟩ (.inl rfl)
  | _ =>
      rw [or_iff_right (by simp)]
      exact exists_map_eq_ok_iff

end Json

/-! ### Which values stand for a part -/

namespace EventField

/-- **Which values stand for a part.** -/
def Fits : EventField → Json → Prop
  | step, value | timestamp, value | delta, value | frame, value => value.IsWord UInt64.size
  | line, value | depth, value => value.IsWord UInt32.size
  | kind, value | function, value => value.IsText
  | parent, value => value = .null ∨ value.IsWord UInt64.size
  | args, value | assignments, value | previous, value => value = .null ∨ value.IsObject
  | returnValue, _ => True
  | stdout, value => value = .null ∨ value.IsText

/-- **A part is read from the values that fit it, and from no others.** -/
theorem exists_read_iff (field : EventField) (value : Json) :
    (∃ content, field.read value = .ok content) ↔ field.Fits value := by
  cases field with
  | step | timestamp | delta | frame => exact Json.exists_toWord64_iff
  | line | depth => exact Json.exists_toWord32_iff
  | kind => exact exists_map_eq_ok_iff.trans Json.exists_toText_iff
  | function => exact Json.exists_toText_iff
  | parent => exact Json.exists_orNull_iff.trans (or_congr_right Json.exists_toWord64_iff)
  | args | assignments | previous =>
      exact Json.exists_orNull_iff.trans (or_congr_right Json.exists_toBindings_iff)
  | returnValue => exact iff_of_true ⟨value, rfl⟩ trivial
  | stdout => exact Json.exists_orNull_iff.trans (or_congr_right Json.exists_toText_iff)

/-! ### What is written for a part -/

/-- The value that is written for the content of a part. -/
def write : (field : EventField) → field.Value → Json
  | step, content | timestamp, content | delta, content | frame, content =>
      Event.wordJson content
  | kind, content => .str (Kind.name content)
  | function, content => .str content
  | line, content | depth, content => .ofNat (UInt32.toNat content)
  | parent, content => .ofOption Event.wordJson content
  | args, content | assignments, content | previous, content =>
      .ofOption Event.bindingsJson content
  | returnValue, content => content
  | stdout, content => .ofOption .str content

end EventField

/-! ### Reading what was written -/

namespace Kind

/-- A kind that its own spelling stands for: one that is known, or one that is spelled like none of
the known ones, whatever the case of its ASCII letters. -/
def Canonical (kind : Kind) : Prop :=
  ∀ name, kind = other name → ∀ known ∈ Kind.known, foldCase known.name ≠ foldCase name

/-- A kind is unknown if it is spelled like none of the known ones, and then keeps its spelling. -/
theorem ofName_eq_other_iff {text name : String} :
    ofName text = other name ↔
      name = text ∧ ∀ kind ∈ known, foldCase kind.name ≠ foldCase text := by
  have hnone : (∀ kind ∈ known, foldCase kind.name ≠ foldCase text) ↔
      known.find? (fun kind => foldCase kind.name == foldCase text) = none := by
    simp [List.find?_eq_none]
  rw [hnone, ofName]
  cases hfind : known.find? fun kind => foldCase kind.name == foldCase text with
  | none => simp [eq_comm]
  | some kind =>
      refine iff_of_false ?_ (by simp)
      rintro rfl
      have hmem := List.mem_of_find?_eq_some hfind
      simp [known] at hmem

theorem canonical_ofName (text : String) : (ofName text).Canonical := by
  intro name hname
  obtain ⟨rfl, hspelled⟩ := ofName_eq_other_iff.1 hname
  exact hspelled

theorem ofName_name {kind : Kind} (canonical : kind.Canonical) : ofName kind.name = kind := by
  cases kind with
  | other name => exact ofName_eq_other_iff.2 ⟨rfl, canonical name rfl⟩
  | call | line | ret | input | exception => decide

end Kind

namespace Json

theorem toWord64_wordJson (word : UInt64) : (Event.wordJson word).toWord64 = .ok word :=
  toWord64_eq_ok_iff.2 rfl

theorem toWord32_ofNat (word : UInt32) : (ofNat word.toNat).toWord32 = .ok word :=
  toWord32_eq_ok_iff.2 rfl

theorem toText_str (text : String) : (str text).toText = .ok text := rfl

theorem toBindings_bindingsJson (bindings : Bindings Json) :
    (Event.bindingsJson bindings).toBindings = .ok bindings := by
  rw [Event.bindingsJson, toBindings, Bindings.ofPairs_toList]

/-- An optional content is read back if its values are, and none of them is `null`. -/
theorem orNull_ofOption {α : Type} {read : Json → Except DecodeError α} {write : α → Json}
    (hread : ∀ a, read (write a) = .ok a) (hnull : ∀ a, write a ≠ null) (content : Option α) :
    (ofOption write content).orNull read = .ok content := by
  cases content with
  | none => rfl
  | some a =>
      rw [ofOption, orNull.eq_def]
      split
      · next h => exact absurd h (hnull a)
      · rw [hread]
        rfl

end Json

namespace EventField

/-- **What is written for a part is read back.** -/
theorem read_write {field : EventField} (content : field.Value) (h : field ≠ kind) :
    field.read (field.write content) = .ok content := by
  cases field with
  | step | timestamp | delta | frame => exact Json.toWord64_wordJson content
  | line | depth => exact Json.toWord32_ofNat content
  | kind => exact absurd rfl h
  | function | returnValue => rfl
  | parent => exact Json.orNull_ofOption Json.toWord64_wordJson (fun _ => nofun) content
  | args | assignments | previous =>
      exact Json.orNull_ofOption Json.toBindings_bindingsJson (fun _ => nofun) content
  | stdout => exact Json.orNull_ofOption Json.toText_str (fun _ => nofun) content

/-- A kind is read back if its own spelling stands for it. -/
theorem read_write_kind {content : Kind} (canonical : content.Canonical) :
    kind.read (kind.write content) = .ok content :=
  congrArg Except.ok (Kind.ofName_name canonical)

/-- Only kinds that their own spelling stands for are ever read. -/
theorem canonical_of_read {value : Json} {content : Kind} (h : kind.read value = .ok content) :
    content.Canonical := by
  cases value with
  | str text =>
      obtain rfl : Kind.ofName text = content := Except.ok.inj h
      exact Kind.canonical_ofName text
  | _ => cases h

end EventField

end TracePlayer
