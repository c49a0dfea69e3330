/-
**The number of cells of a text.**

The cells of a text are those of its characters, but for the characters that are drawn as one: an
emoji with its signs and joiners, and the ligatures of some scripts.  A text is measured from its
end, and each character looks at what follows it.

Main definitions:

* `Following`, `Next`: what follows a character, as far as it bears on its cells;
* `Next.measure`: the cells of a character before what follows, and what the two are for the
  character before them;
* `textWidth`: the number of cells of a text.
-/
import TracePlayer.Text.Ligature
import TracePlayer.Text.Picture

set_option autoImplicit false

namespace TracePlayer

/-! ### What follows a character -/

/-- What follows a character, apart from signs that ask for a picture or for text. -/
inductive Following where
  /-- Nothing that matters. -/
  | plain
  /-- A line feed. -/
  | lineFeed
  /-- A tone for a picture. -/
  | tone
  /-- One half of a flag. -/
  | flagHalf
  /-- Several halves of flags. -/
  | flagHalves
  /-- A picture. -/
  | picture
  /-- A joiner and a picture. -/
  | joinedPicture
  /-- The sign for a keycap before a joiner and a picture. -/
  | joinedKeycap
  /-- One half of a flag before a joiner and a picture. -/
  | joinedHalf
  /-- An even number of halves of flags before a joiner and a picture. -/
  | joinedEven
  /-- An odd number of them, more than one. -/
  | joinedOdd
  /-- Tags of letters and the end of tags before a joiner and a picture. -/
  | tagLetters (count : Nat)
  /-- One to three tags of digits before such tags. -/
  | tagDigits (count : Nat)
  /-- The vowel sign E of Kirat Rai. -/
  | signE
  /-- The vowel sign AI of Kirat Rai. -/
  | signAi
  /-- A part of a ligature; a joiner may stand before it. -/
  | ligature (part : Ligature) (joined : Bool)
  deriving DecidableEq

/-- What follows a character. -/
structure Next where
  /-- What follows, apart from signs. -/
  following : Following := .plain
  /-- Whether a sign that asks for text stands in between. -/
  textSign : Bool := false
  /-- Whether a sign that asks for a picture stands in between. -/
  pictureSign : Bool := false
  deriving DecidableEq

namespace Next

/-- Whether what follows is part of a ligature, which signs in between do not break. -/
def isLigature (next : Next) : Bool :=
  match next.following with
  | .ligature _ _ => true
  | _ => false

/-- Whether what follows is a joiner and a picture, or a keycap before them. -/
def isJoinedPicture (next : Next) : Bool :=
  next.following = .joinedPicture || next.following = .joinedKeycap

/-- What follows if a sign that asks for a picture is put in between. -/
def withPictureSign (next : Next) : Next :=
  if next.isLigature || next.isJoinedPicture then { next with pictureSign := true }
  else ⟨.plain, false, true⟩

/-- What follows if the sign that asks for a picture has no effect. -/
def withoutPictureSign (next : Next) : Next :=
  if next.isLigature then { next with pictureSign := false } else {}

/-- What follows if a sign that asks for text is put in between. -/
def withTextSign (next : Next) : Next :=
  if next.isLigature then { next with textSign := true } else ⟨.plain, true, false⟩

/-! ### One character -/

/-- Whether a character is a tag of a letter. -/
def isTagLetter (c : Char) : Bool := inRanges [(0xE0061, 0xE007A)] c

/-- Whether a character is a tag of a digit. -/
def isTagDigit (c : Char) : Bool := inRanges [(0xE0030, 0xE0039)] c

/-- Whether a character is shown as a picture by itself; halves of flags and tones are not. -/
def isColoured (c : Char) : Bool := inRanges colouredRanges c

/-- What a character is for the one before it, if nothing after it changes that. -/
def followingOf (c : Char) : Following :=
  if c = '\n' then .lineFeed
  else if c.toNat ≤ 0xA0 then .plain
  else match Ligature.ofLast? c with
    | some ligature => .ligature ligature false
    | none =>
        if c.toNat = 0x16D67 then .signE
        else if c.toNat = 0x16D68 then .signAi
        else if isFlagHalf c then .flagHalf
        else if isTone c then .tone
        else if isColoured c then .picture
        else .plain

/-- The cells of a character that nothing after it changes, and what it is for the one before. -/
def alone (c : Char) : Int × Next := (charWidth c, { following := followingOf c })

/-- The cells of a character that is drawn as one with what follows it, and what the two are for
the character before them; none if it is drawn for itself. -/
def joined? (following : Following) (c : Char) : Option (Int × Following) :=
  match following with
  | .plain | .lineFeed => none
  | .ligature part joined =>
      if part ≠ .alef && Ligature.isTransparent c then
        some (0, .ligature part (joined || c = '\u200d'))
      else
        (part.extend? joined c).map fun (cells, rest) =>
          (cells, match rest with
            | some part => .ligature part true
            | none => .plain)
  | .tone =>
      if inRanges tonedRanges c then some (0, .picture)
      else if c = '\u200d' then some (0, .joinedPicture)
      else none
  | .flagHalf => if isFlagHalf c then some (1, .flagHalves) else none
  | .flagHalves =>
      if isFlagHalf c then some (1, .flagHalves)
      else if c = '\u200d' then some (0, .joinedPicture)
      else none
  | .picture => if c = '\u200d' then some (0, .joinedPicture) else none
  | .joinedPicture =>
      if c = '\u20e3' then some (0, .joinedKeycap)
      else if isFlagHalf c then some (1, .joinedHalf)
      else if isTone c then some (0, .tone)
      else if c.toNat = 0xE007F then some (0, .tagLetters 0)
      else if isColoured c then some (0, .picture)
      else none
  | .joinedKeycap => none
  | .joinedHalf => if isFlagHalf c then some (-1, .joinedEven) else none
  | .joinedEven =>
      if isFlagHalf c then some (3, .joinedOdd)
      else if c = '\u200d' then some (0, .joinedPicture)
      else none
  | .joinedOdd =>
      if isFlagHalf c then some (-1, .joinedEven)
      else if c = '\u200d' then some (0, .joinedPicture)
      else none
  | .tagLetters count =>
      if isTagLetter c && decide (count < 6) then some (0, .tagLetters (count + 1))
      else if isTagDigit c && decide (count < 5) then some (0, .tagDigits 1)
      else if c.toNat = 0x1F3F4 && decide (3 ≤ count) then some (0, .picture)
      else none
  | .tagDigits count =>
      if isTagDigit c && decide (count < 3) then some (0, .tagDigits (count + 1))
      else if c.toNat = 0x1F3F4 && decide (3 ≤ count) then some (0, .picture)
      else none
  | .signE =>
      if c.toNat = 0x16D63 || c.toNat = 0x16D69 then some (0, .plain)
      else if c.toNat = 0x16D67 then some (0, .signAi)
      else if c.toNat = 0x16D68 then some (1, .signE)
      else none
  | .signAi => if c.toNat = 0x16D63 then some (0, .plain) else none

/-- The cells of a character beyond the first 160 where no sign asks for a picture. -/
def measureWide (next : Next) (c : Char) : Int × Next :=
  if c = '\ufe0f' then (0, next.withPictureSign)
  else if c = '\ufe0e' then (0, next.withTextSign)
  else if next.textSign && heedsTextSign c then (1, {})
  else match joined? next.following c with
    | some (cells, following) => (cells, { following := following })
    | none => alone c

/-- The cells of a character before what follows, and what the two are for the character before
them. -/
def measure (next : Next) (c : Char) : Int × Next :=
  if next.pictureSign && heedsPictureSign c then
    (if next.isJoinedPicture then 0 else 2, { following := .picture })
  else
    let next := if next.pictureSign then next.withoutPictureSign else next
    if c.toNat ≤ 0xA0 then
      if c = '\r' && next.following = .lineFeed then (0, {}) else alone c
    else next.measureWide c

end Next

/-! ### A whole text -/

/-- The cells of some characters, and what they are for a character before them. -/
def measureChars (text : List Char) : Int × Next :=
  text.foldr
    (fun c (cells, next) =>
      let (more, next) := next.measure c
      (cells + more, next))
    (0, {})

/-- The number of cells of a text. -/
def textWidth (text : String) : Nat := (measureChars text.toList).1.toNat

end TracePlayer
