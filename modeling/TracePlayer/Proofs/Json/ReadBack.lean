/-
**What is written is read back.**

A text without blanks is made from a value, and the reader finds the value again at the front of any
text that begins with it: a string ends at the first quote that is not escaped, an array and an
object at the first bracket or brace that is not inside a part.  Numbers are left out: where one
ends is only seen from what follows, and a double need not be read as it was written.

Main definitions:

* `Json.ReadsBack`: the reader finds a value again;
* `Json.Legible`: **values without numbers**, not too deep, whose objects bind no name twice;
* `Json.isPrintable`: characters other than control characters.

Main results:

* `Json.readString_flatMap_escapeChar`: a string is read up to its end, and stands for itself;
* `Json.readItems_compressItems`, `Json.readFields_compressFields`: so are lists of parts;
* `Json.Legible.readsBack`: **a legible value is read back**, whatever follows it;
* `Json.Legible.read?_compress`: the text of an object stands for its fields;
* `Json.Legible.all_isPrintable`: its text has no control character.
-/
import Mathlib.Data.List.TakeWhile
import TracePlayer.Json.Reader
import TracePlayer.Json.Writer
import TracePlayer.Proofs.Trace.Rewriting

set_option autoImplicit false

namespace TracePlayer

namespace Json

open Raw

/-! ### Strings -/

section Strings

variable {rest after chars : List Char} {parts : List StringPart} {c e : Char}

theorem hexValue?_hexDigit {n : Nat} (h : n < 16) : hexValue? (hexDigit n) = some n := by
  decide +revert

/-- **The three forms of a character**: behind a backslash, by its number, and as it is. -/
theorem escapeChar_cases (c : Char) :
    (∃ e, escapeChar c = ['\\', e] ∧ e ≠ 'u' ∧ 32 ≤ e.toNat ∧ escaped? e = some c) ∨
      (c.toNat < 32 ∧ escapeChar c =
        ['\\', 'u', '0', '0', hexDigit (c.toNat / 16), hexDigit (c.toNat % 16)]) ∨
      (c ≠ '"' ∧ c ≠ '\\' ∧ ¬ c.toNat < 32 ∧ escapeChar c = [c]) := by
  have hnumber {n : Nat} (h : c.toNat = n) : c = Char.ofNat n := h ▸ (Char.ofNat_toNat c).symm
  unfold escapeChar
  split
  · next h => exact .inl ⟨'"', rfl, by decide, by decide, by rw [h]; rfl⟩
  split
  · next h => exact .inl ⟨'\\', rfl, by decide, by decide, by rw [h]; rfl⟩
  split
  · next h => exact .inl ⟨'n', rfl, by decide, by decide, by rw [h]; rfl⟩
  split
  · next h => exact .inl ⟨'r', rfl, by decide, by decide, by rw [h]; rfl⟩
  split
  · next h => exact .inl ⟨'t', rfl, by decide, by decide, by rw [h]; rfl⟩
  split
  · next h => exact .inl ⟨'b', rfl, by decide, by decide, by rw [hnumber h]; rfl⟩
  split
  · next h => exact .inl ⟨'f', rfl, by decide, by decide, by rw [hnumber h]; rfl⟩
  split
  · next h => exact .inr (.inl ⟨h, rfl⟩)
  · next hquote hslash _ _ _ _ _ hcontrol => exact .inr (.inr ⟨hquote, hslash, hcontrol, rfl⟩)

theorem readString_short (he : e ≠ 'u') (hescaped : escaped? e = some c)
    (hread : readString rest = some (parts, after)) :
    readString ('\\' :: e :: rest) = some (.char c :: parts, after) := by
  rw [readString, hescaped, hread]
  · rfl
  · exact fun _ _ _ _ _ hunit => absurd hunit he

theorem readString_unit {a b c d : Char} {code : Nat} (hcode : unit? a b c d = some code)
    (hread : readString rest = some (parts, after)) :
    readString ('\\' :: 'u' :: a :: b :: c :: d :: rest) = some (.unit code :: parts, after) := by
  rw [readString, hcode, hread]
  rfl

theorem readString_plain (hquote : c ≠ '"') (hslash : c ≠ '\\') (hcontrol : ¬ c.toNat < 32)
    (hread : readString rest = some (parts, after)) :
    readString (c :: rest) = some (.char c :: parts, after) := by
  rw [readString.eq_def]
  split <;> simp_all

/-- A number below that of a blank is not half of a pair, and stands for its character. -/
theorem unescapeParts_unit (h : c.toNat < 32) (hparts : unescapeParts parts = some chars) :
    unescapeParts (.unit c.toNat :: parts) = some (c :: chars) := by
  rw [unescapeParts.eq_def]
  simp only
  rw [if_neg (by omega), if_neg (by omega), hparts, Char.ofNat_toNat]
  rfl

/-- **A character in its escaped form is read as itself.** -/
theorem readString_escapeChar (c : Char) (hread : readString rest = some (parts, after))
    (hparts : unescapeParts parts = some chars) :
    ∃ parts', readString (escapeChar c ++ rest) = some (parts', after) ∧
      unescapeParts parts' = some (c :: chars) := by
  have hchar : unescapeParts (.char c :: parts) = some (c :: chars) := by
    rw [unescapeParts, hparts]
    rfl
  rcases escapeChar_cases c with ⟨e, hform, he, -, hescaped⟩ | ⟨hcontrol, hform⟩ |
    ⟨hquote, hslash, hcontrol, hform⟩
  · exact ⟨_, hform ▸ readString_short he hescaped hread, hchar⟩
  -- The two digits give the number again, which is below that of a blank and so no half of a pair.
  · have hcode : unit? '0' '0' (hexDigit (c.toNat / 16)) (hexDigit (c.toNat % 16)) =
        some c.toNat := by
      have hvalue : ((0 * 16 + 0) * 16 + c.toNat / 16) * 16 + c.toNat % 16 = c.toNat := by omega
      have hzero : hexValue? '0' = some 0 := rfl
      simp only [unit?, hzero, hexValue?_hexDigit (show c.toNat / 16 < 16 by omega),
        hexValue?_hexDigit (show c.toNat % 16 < 16 by omega), Option.bind_eq_bind,
        Option.bind_some, hvalue]
      rfl
    exact ⟨_, hform ▸ readString_unit hcode hread, unescapeParts_unit hcontrol hparts⟩
  · exact ⟨_, hform ▸ readString_plain hquote hslash hcontrol hread, hchar⟩

/-- **A string is read up to its end, and stands for itself.** -/
theorem readString_flatMap_escapeChar (chars rest : List Char) :
    ∃ parts, readString (chars.flatMap escapeChar ++ '"' :: rest) = some (parts, rest) ∧
      unescapeParts parts = some chars := by
  induction chars with
  | nil => exact ⟨[], rfl, rfl⟩
  | cons c chars ih =>
      obtain ⟨parts, hread, hparts⟩ := ih
      rw [List.flatMap_cons, List.append_assoc]
      exact readString_escapeChar c hread hparts

/-- The parts of a quoted string, once its opening quote has been read. -/
theorem readString_quote (s : String) (rest : List Char) :
    ∃ parts, readString (s.toList.flatMap escapeChar ++ '"' :: rest) = some (parts, rest) ∧
      unescape? parts = some s := by
  obtain ⟨parts, hread, hparts⟩ := readString_flatMap_escapeChar s.toList rest
  refine ⟨parts, hread, ?_⟩
  rw [unescape?, hparts, Option.map_some, String.ofList_toList]

end Strings

/-! ### Texts without blanks -/

section Texts

variable (item : Json) (items : List Json) (name : String) (field : String × Json)
  (fields : List (String × Json))

theorem toList_quote : (quote name).toList = '"' :: (name.toList.flatMap escapeChar ++ ['"']) := by
  simp only [quote, String.toList_append, String.toList_ofList]
  rfl

/-- The text of a field. -/
def fieldText : List Char :=
  '"' :: (field.1.toList.flatMap escapeChar ++ '"' :: ':' :: field.2.compress.toList)

theorem toList_compress_arr :
    (compress (arr (item :: items))).toList =
      '[' :: (item.compress.toList ++ ((compressItems items).toList ++ [']'])) := by
  simp only [compress, String.toList_append, List.append_assoc]
  rfl

theorem toList_compressItems :
    (compressItems (item :: items)).toList =
      ',' :: (item.compress.toList ++ (compressItems items).toList) := by
  simp only [compressItems, String.toList_append, List.append_assoc]
  rfl

theorem toList_compress_obj :
    (compress (obj (field :: fields))).toList =
      '\x7b' :: (fieldText field ++ ((compressFields fields).toList ++ ['\x7d'])) := by
  simp only [compress, String.toList_append, toList_quote, fieldText, List.append_assoc,
    List.cons_append]
  rfl

theorem toList_compressFields :
    (compressFields (field :: fields)).toList =
      ',' :: (fieldText field ++ (compressFields fields).toList) := by
  simp only [compressFields, String.toList_append, toList_quote, fieldText, List.append_assoc,
    List.cons_append]
  rfl

end Texts

/-! ### Values -/

section Values

variable {depth : Nat} {value item : Json} {items : List Json} {field : String × Json}
  {fields : List (String × Json)}

/-- **The reader finds a value again**: it stops where the text of the value ends, whatever
follows. -/
def ReadsBack (depth : Nat) (value : Json) : Prop :=
  ∀ fuel rest, value.compress.toList.length ≤ fuel →
    ∃ raw, readValue fuel (value.compress.toList ++ rest) = some (raw, rest) ∧
      raw.value? depth = some value

/-- **A value without numbers** whose arrays and objects lie at most `depth` deep, and whose objects
bind no name twice. -/
inductive Legible : Nat → Json → Prop
  | null {depth : Nat} : Legible depth null
  | bool {depth : Nat} (b : Bool) : Legible depth (bool b)
  | str {depth : Nat} (s : String) : Legible depth (str s)
  | arr {depth : Nat} {items : List Json} (inside : ∀ item ∈ items, Legible depth item) :
      Legible (depth + 1) (arr items)
  | obj {depth : Nat} {fields : List (String × Json)} (nodup : (fields.map Prod.fst).Nodup)
      (inside : ∀ field ∈ fields, Legible depth field.2) : Legible (depth + 1) (obj fields)

/-- The first character of a text is not a blank, and does not close an array. -/
theorem Legible.exists_cons (h : Legible depth value) :
    ∃ c cs, value.compress.toList = c :: cs ∧ isBlank c = false ∧ c ≠ ']' := by
  cases h with
  | null => exact ⟨'n', _, rfl, rfl, by decide⟩
  | bool b => cases b with
    | true => exact ⟨'t', _, rfl, rfl, by decide⟩
    | false => exact ⟨'f', _, rfl, rfl, by decide⟩
  | str s => exact ⟨'"', _, toList_quote s, rfl, by decide⟩
  | @arr _ items _ => cases items with
    | nil => exact ⟨'[', _, rfl, rfl, by decide⟩
    | cons item items => exact ⟨'[', _, toList_compress_arr item items, rfl, by decide⟩
  | @obj _ fields _ _ => cases fields with
    | nil => exact ⟨'\x7b', _, rfl, rfl, by decide⟩
    | cons field fields => exact ⟨'\x7b', _, toList_compress_obj field fields, rfl, by decide⟩

theorem skipBlanks_cons {c : Char} {cs : List Char} (h : isBlank c = false) :
    skipBlanks (c :: cs) = c :: cs :=
  List.dropWhile_cons_of_neg (by simp [h])

theorem readsBack_str (s : String) : ReadsBack depth (str s) := by
  intro fuel rest hfuel
  obtain ⟨parts, hread, hparts⟩ := readString_quote s rest
  have htext : (compress (str s)).toList = _ := toList_quote s
  rw [htext] at hfuel ⊢
  cases fuel with
  | zero => simp at hfuel
  | succ fuel =>
      refine ⟨.str parts, ?_, ?_⟩
      · rw [readValue, List.cons_append, List.append_assoc]
        simp [skipBlanks, isBlank, hread]
      · rw [value?, hparts]; rfl

/-- **The items of an array are read up to its end.** -/
theorem readItems_compressItems (hitems : ∀ item ∈ items, ReadsBack depth item) (fuel : Nat)
    (rest : List Char) (hfuel : (compressItems items).toList.length < fuel) :
    ∃ raws, Raw.readItems fuel ((compressItems items).toList ++ ']' :: rest) = some (raws, rest) ∧
      values? depth raws = some items := by
  induction items generalizing fuel with
  | nil => cases fuel with
    | zero => omega
    | succ fuel => exact ⟨[], by simp [compressItems, Raw.readItems, skipBlanks, isBlank], rfl⟩
  | cons item items ih => cases fuel with
    | zero => omega
    | succ fuel =>
        -- The comma pays for this call, and either part is shorter than what is left.
        rw [toList_compressItems, List.length_cons, List.length_append] at hfuel
        obtain ⟨raw, hread, hvalue⟩ := hitems item List.mem_cons_self fuel
          ((compressItems items).toList ++ ']' :: rest) (by omega)
        obtain ⟨raws, hreads, hvalues⟩ :=
          ih (fun item h => hitems item (List.mem_cons_of_mem _ h)) fuel (by omega)
        refine ⟨raw :: raws, ?_, ?_⟩
        · rw [toList_compressItems, List.cons_append, List.append_assoc, Raw.readItems]
          simp [skipBlanks, isBlank, hread, hreads]
        · rw [values?, hvalue, hvalues]; rfl

theorem readsBack_arr (legible : ∀ item ∈ items, Legible depth item)
    (hitems : ∀ item ∈ items, ReadsBack depth item) : ReadsBack (depth + 1) (arr items) := by
  intro fuel rest hfuel
  cases fuel with
  | zero => cases items with
    | nil => exact absurd hfuel (by decide)
    | cons item items => rw [toList_compress_arr] at hfuel; simp at hfuel
  | succ fuel => cases items with
    | nil => exact ⟨.arr [], by simp [compress, readValue, skipBlanks, isBlank], rfl⟩
    | cons item items =>
        rw [toList_compress_arr] at hfuel ⊢
        simp only [List.length_cons, List.length_append] at hfuel
        obtain ⟨raw, hread, hvalue⟩ := hitems item List.mem_cons_self fuel
          ((compressItems items).toList ++ ']' :: rest) (by omega)
        obtain ⟨raws, hreads, hvalues⟩ := readItems_compressItems
          (fun item h => hitems item (List.mem_cons_of_mem _ h)) fuel rest (by omega)
        -- Before the first item the array could also end, so its first character has to be known.
        obtain ⟨c, cs, htext, hblank, hclose⟩ := (legible item List.mem_cons_self).exists_cons
        refine ⟨.arr (raw :: raws), ?_, ?_⟩
        · simp only [htext, List.cons_append, List.append_assoc] at hread ⊢
          rw [readValue, skipBlanks_cons rfl]
          simp [skipBlanks_cons hblank, hclose, hread, hreads]
        · simp [value?, values?, hvalue, hvalues]

/-- A field is read up to the end of its value. -/
theorem readField_fieldText (hfield : ReadsBack depth field.2) (fuel : Nat) (rest : List Char)
    (hfuel : (fieldText field).length ≤ fuel) :
    ∃ parts raw, readField fuel (fieldText field ++ rest) = some ((parts, raw), rest) ∧
      unescape? parts = some field.1 ∧ raw.value? depth = some field.2 := by
  rw [fieldText] at hfuel ⊢
  cases fuel with
  | zero => simp at hfuel
  | succ fuel =>
      simp only [List.length_cons, List.length_append] at hfuel
      obtain ⟨raw, hread, hvalue⟩ := hfield fuel rest (by omega)
      obtain ⟨parts, hname, hparts⟩ :=
        readString_quote field.1 (':' :: (field.2.compress.toList ++ rest))
      refine ⟨parts, raw, ?_, hparts, hvalue⟩
      rw [readField]
      simp [skipBlanks, isBlank, hname, hread]

/-- **The fields of an object are read up to its end.** -/
theorem readFields_compressFields (hfields : ∀ field ∈ fields, ReadsBack depth field.2)
    (fuel : Nat) (rest : List Char) (hfuel : (compressFields fields).toList.length < fuel) :
    ∃ raws, readFields fuel ((compressFields fields).toList ++ '\x7d' :: rest) =
        some (raws, rest) ∧ pairs? depth raws = some fields := by
  induction fields generalizing fuel with
  | nil => cases fuel with
    | zero => omega
    | succ fuel => exact ⟨[], by simp [compressFields, readFields, skipBlanks, isBlank], rfl⟩
  | cons field fields ih => cases fuel with
    | zero => omega
    | succ fuel =>
        rw [toList_compressFields, List.length_cons, List.length_append] at hfuel
        obtain ⟨parts, raw, hread, hname, hvalue⟩ := readField_fieldText
          (hfields field List.mem_cons_self) fuel
          ((compressFields fields).toList ++ '\x7d' :: rest) (by omega)
        obtain ⟨raws, hreads, hvalues⟩ :=
          ih (fun field h => hfields field (List.mem_cons_of_mem _ h)) fuel (by omega)
        refine ⟨(parts, raw) :: raws, ?_, ?_⟩
        · rw [toList_compressFields, List.cons_append, List.append_assoc, readFields]
          simp [skipBlanks, isBlank, hread, hreads]
        · rw [pairs?, hname, hvalue, hvalues]; rfl

/-- The fields of an object are found again in their order. -/
theorem readValue_compress_obj (hfields : ∀ field ∈ fields, ReadsBack depth field.2)
    (fuel : Nat) (rest : List Char) (hfuel : (compress (obj fields)).toList.length ≤ fuel) :
    ∃ raws, readValue fuel ((compress (obj fields)).toList ++ rest) = some (.obj raws, rest) ∧
      pairs? depth raws = some fields := by
  cases fuel with
  | zero => cases fields with
    | nil => exact absurd hfuel (by decide)
    | cons field fields => rw [toList_compress_obj] at hfuel; simp at hfuel
  | succ fuel => cases fields with
    | nil => exact ⟨[], by simp [compress, readValue, skipBlanks, isBlank], rfl⟩
    | cons field fields =>
        rw [toList_compress_obj] at hfuel ⊢
        simp only [List.length_cons, List.length_append] at hfuel
        obtain ⟨parts, raw, hread, hname, hvalue⟩ := readField_fieldText
          (hfields field List.mem_cons_self) fuel
          ((compressFields fields).toList ++ '\x7d' :: rest) (by omega)
        obtain ⟨raws, hreads, hvalues⟩ := readFields_compressFields
          (fun field h => hfields field (List.mem_cons_of_mem _ h)) fuel rest (by omega)
        refine ⟨(parts, raw) :: raws, ?_, ?_⟩
        · rw [readValue]
          simp only [fieldText, List.cons_append, List.append_assoc] at hread ⊢
          simp [skipBlanks, isBlank, hread, hreads]
        · rw [pairs?, hname, hvalue, hvalues]; rfl

theorem readsBack_obj (nodup : (fields.map Prod.fst).Nodup)
    (hfields : ∀ field ∈ fields, ReadsBack depth field.2) :
    ReadsBack (depth + 1) (obj fields) := by
  intro fuel rest hfuel
  obtain ⟨raws, hread, hpairs⟩ := readValue_compress_obj hfields fuel rest hfuel
  refine ⟨.obj raws, hread, ?_⟩
  rw [value?, if_neg (Nat.succ_ne_zero depth), Nat.add_sub_cancel, hpairs, Option.map_some,
    Bindings.toList_ofPairs nodup]

/-- **A legible value is read back.** -/
theorem Legible.readsBack (h : Legible depth value) : ReadsBack depth value := by
  induction h with
  | null =>
      intro fuel rest hfuel
      cases fuel with
      | zero => exact absurd hfuel (by decide)
      | succ fuel => exact ⟨.null, by simp [compress, readValue, skipBlanks, isBlank], rfl⟩
  | bool b =>
      intro fuel rest hfuel
      cases fuel with
      | zero => cases b <;> exact absurd hfuel (by decide)
      | succ fuel =>
          exact ⟨.bool b, by cases b <;> simp [compress, readValue, skipBlanks, isBlank], rfl⟩
  | str s => exact readsBack_str s
  | arr inside ih => exact readsBack_arr inside ih
  | obj nodup _ ih => exact readsBack_obj nodup ih

/-! ### Whole texts -/

theorem readDocument_of_readValue {cs blanks : List Char} {raw : Raw}
    (hread : readValue (2 * cs.length + 2) cs = some (raw, blanks))
    (hblanks : blanks.all isBlank) : readDocument cs = some raw := by
  have hskip : skipBlanks blanks = [] :=
    List.dropWhile_eq_nil_iff.2 fun c hc => List.all_eq_true.1 hblanks c hc
  rw [readDocument, hread]
  simp [hskip]

/-- Twice the length of a whole text is more than enough for the value at its front. -/
theorem length_le_fuel (cs blanks : List Char) : cs.length ≤ 2 * (cs ++ blanks).length + 2 := by
  rw [List.length_append]
  omega

/-- **The text of a legible object stands for its fields**, in the order in which they were
written, also with blanks after it. -/
theorem Legible.read?_compress (h : Legible (depth + 1) (.obj fields)) {blanks : String}
    (hblanks : blanks.toList.all isBlank) :
    ∃ raws, read? (compress (.obj fields) ++ blanks) = some (.obj raws) ∧
      pairs? depth raws = some fields := by
  cases h with
  | obj nodup inside =>
      obtain ⟨raws, hread, hpairs⟩ := readValue_compress_obj
        (fun field hfield => (inside field hfield).readsBack) _ blanks.toList (length_le_fuel _ _)
      refine ⟨raws, ?_, hpairs⟩
      rw [read?, String.toList_append, readDocument_of_readValue hread hblanks]

/-! ### Characters of a text -/

/-- Whether a character is no control character. -/
def isPrintable (c : Char) : Bool := 32 ≤ c.toNat

theorem all_escapeChar (c : Char) : (escapeChar c).all isPrintable := by
  rcases escapeChar_cases c with ⟨e, hform, -, he, -⟩ | ⟨hcontrol, hform⟩ | ⟨-, -, hcontrol, hform⟩
  · simpa [hform, isPrintable] using he
  · have hdigit {n : Nat} (h : n < 16) : isPrintable (hexDigit n) := by decide +revert
    simp only [hform, List.all_cons, hdigit (show c.toNat / 16 < 16 by omega),
      hdigit (show c.toNat % 16 < 16 by omega)]
    rfl
  · simpa [hform, isPrintable] using hcontrol

theorem all_flatMap_escapeChar (chars : List Char) :
    (chars.flatMap escapeChar).all isPrintable := by
  simp only [List.all_flatMap, all_escapeChar, List.all_eq_true, implies_true]

theorem all_fieldText (h : field.2.compress.toList.all isPrintable) :
    (fieldText field).all isPrintable := by
  simp only [fieldText, List.all_cons, List.all_append, all_flatMap_escapeChar, h]
  rfl

theorem all_compressItems (h : ∀ item ∈ items, item.compress.toList.all isPrintable) :
    (compressItems items).toList.all isPrintable := by
  induction items with
  | nil => rfl
  | cons item items ih =>
      rw [List.forall_mem_cons] at h
      rw [toList_compressItems, List.all_cons, List.all_append, h.1, ih h.2]
      rfl

theorem all_compressFields (h : ∀ field ∈ fields, field.2.compress.toList.all isPrintable) :
    (compressFields fields).toList.all isPrintable := by
  induction fields with
  | nil => rfl
  | cons field fields ih =>
      rw [List.forall_mem_cons] at h
      rw [toList_compressFields, List.all_cons, List.all_append, all_fieldText h.1, ih h.2]
      rfl

/-- **The text of a legible value has no control character.** -/
theorem Legible.all_isPrintable (h : Legible depth value) :
    value.compress.toList.all isPrintable := by
  induction h with
  | null => rfl
  | bool b => cases b <;> rfl
  | str s =>
      rw [compress, toList_quote, List.all_cons, List.all_append, all_flatMap_escapeChar]
      rfl
  | @arr _ items _ ih => cases items with
    | nil => rfl
    | cons item items =>
        rw [List.forall_mem_cons] at ih
        rw [toList_compress_arr, List.all_cons, List.all_append, List.all_append, ih.1,
          all_compressItems ih.2]
        rfl
  | @obj _ fields _ _ ih => cases fields with
    | nil => rfl
    | cons field fields =>
        rw [List.forall_mem_cons] at ih
        rw [toList_compress_obj, List.all_cons, List.all_append, List.all_append,
          all_fieldText ih.1, all_compressFields ih.2]
        rfl

end Values

end Json

end TracePlayer
