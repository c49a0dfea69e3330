/-
**Ligatures.**

In some scripts letters that follow each other are drawn as one.  A text is measured from its end,
so a ligature is found by its last letter, and the letters before it are taken one by one.

Main definitions:

* `Ligature`, `Ligature.ofLast?`: a ligature of which the last letters are known;
* `Ligature.extend?`: the cells of a letter that is drawn as one with them;
* `Ligature.isTransparent`: the characters that may stand in between.
-/
import TracePlayer.Text.CharWidth

set_option autoImplicit false

namespace TracePlayer

/-- A letter that forms a ligature with what stands before it, or the part of such a ligature that
has been read so far. -/
inductive Ligature where
  /-- An Alef, which joins a Lam. -/
  | alef
  /-- A Lamed, which joins an Alef if a joiner stands between them. -/
  | lamed
  /-- A Buginese Ya, which joins a vowel sign if a joiner stands between them. -/
  | ya
  /-- A Buginese vowel sign, joiner and Ya, which join a letter. -/
  | vowelYa
  /-- A Tifinagh consonant, which joins another one if a joiner stands between them. -/
  | consonant
  /-- A Tifinagh joiner and consonant. -/
  | joinedConsonant
  /-- A Lisu tone letter, which joins another one. -/
  | toneLetter
  /-- An Old Turkic I, which joins a letter if a joiner stands between them. -/
  | orkhonI
  /-- A Khmer letter, which goes below a letter if a sign stands before it. -/
  | coengLetter
  deriving DecidableEq

namespace Ligature

/-! ### Letters -/

/-- Whether an Arabic letter is a Lam. -/
def isLam (c : Char) : Bool :=
  inRanges [(0x644, 0x644), (0x6B5, 0x6B8), (0x76A, 0x76A), (0x8A6, 0x8A6), (0x8C7, 0x8C7)] c

/-- Whether an Arabic letter is an Alef. -/
def isAlef (c : Char) : Bool :=
  inRanges [(0x622, 0x623), (0x625, 0x625), (0x627, 0x627), (0x671, 0x673), (0x675, 0x675),
    (0x773, 0x774), (0x870, 0x882)] c

/-- Whether a Khmer letter has a form below another letter. -/
def isCoengLetter (c : Char) : Bool :=
  inRanges [(0x1780, 0x1782), (0x1784, 0x1787), (0x1789, 0x178C), (0x178E, 0x1793),
    (0x1795, 0x1798), (0x179B, 0x179D), (0x17A0, 0x17A0), (0x17A2, 0x17A2), (0x17A7, 0x17A7),
    (0x17AB, 0x17AC), (0x17AF, 0x17AF)] c

/-- Whether a Tifinagh letter may join another one. -/
def isTifinaghConsonant (c : Char) : Bool := inRanges [(0x2D31, 0x2D65), (0x2D6F, 0x2D6F)] c

/-! ### Characters in between -/

/-- Whether a character may stand between the parts of a ligature. -/
def isTransparent (c : Char) : Bool :=
  inRanges [(0x34F, 0x34F), (0x17B4, 0x17B5), (0x180B, 0x180D), (0x180F, 0x180F),
    (0x200D, 0x200D), (0xFE00, 0xFE0F), (0xE0100, 0xE01EF)] c

/-- The characters without a cell that keep a Lam and an Alef apart. -/
def separatingRanges : List (Nat × Nat) :=
  [(0x605, 0x605), (0x890, 0x891), (0x8E2, 0x8E2), (0x9BE, 0x9BE), (0x9D7, 0x9D7), (0xB3E, 0xB3E),
   (0xB57, 0xB57), (0xBBE, 0xBBE), (0xBD7, 0xBD7), (0xCC0, 0xCC0), (0xCC2, 0xCC2), (0xCC7, 0xCC8),
   (0xCCA, 0xCCB), (0xCD5, 0xCD6), (0xD3E, 0xD3E), (0xD4E, 0xD4E), (0xD57, 0xD57), (0xDCF, 0xDCF),
   (0xDDF, 0xDDF), (0x1160, 0x11FF), (0x1715, 0x1715), (0x1734, 0x1734), (0x180E, 0x180E),
   (0x1B35, 0x1B35), (0x1B3B, 0x1B3B), (0x1B3D, 0x1B3D), (0x1B43, 0x1B44), (0x1BAA, 0x1BAA),
   (0x1BF2, 0x1BF3), (0x200C, 0x200D), (0x2065, 0x2069), (0x302E, 0x302F), (0x3164, 0x3164),
   (0xA8FA, 0xA8FA), (0xA953, 0xA953), (0xA9C0, 0xA9C0), (0xD7B0, 0xD7C6), (0xD7CB, 0xD7FB),
   (0xFF9E, 0xFFA0), (0xFFF0, 0xFFF8), (0x111C0, 0x111C0), (0x111C2, 0x111C3), (0x11235, 0x11235),
   (0x1133E, 0x1133E), (0x1134D, 0x1134D), (0x11357, 0x11357), (0x113B8, 0x113B8),
   (0x113C2, 0x113C2), (0x113C5, 0x113C5), (0x113C7, 0x113C9), (0x113CF, 0x113CF),
   (0x113D1, 0x113D1), (0x114B0, 0x114B0), (0x114BD, 0x114BD), (0x115AF, 0x115AF),
   (0x116B6, 0x116B6), (0x11930, 0x11930), (0x1193D, 0x1193D), (0x1193F, 0x1193F),
   (0x11941, 0x11941), (0x11A3A, 0x11A3A), (0x11A84, 0x11A89), (0x11D46, 0x11D46),
   (0x11F02, 0x11F02), (0x11F41, 0x11F41), (0x16FF0, 0x16FF1), (0x1D165, 0x1D166),
   (0x1D16D, 0x1D172), (0xE0000, 0xE0000), (0xE0002, 0xE001F), (0xE0080, 0xE00FF),
   (0xE01F0, 0xE0FFF)]

/-- Whether a character may stand between a Lam and an Alef. -/
def isArabicTransparent (c : Char) : Bool :=
  charWidth c == 0 && !inRanges separatingRanges c

/-! ### Letter by letter -/

/-- The ligature that a letter may be the last one of. -/
def ofLast? (c : Char) : Option Ligature :=
  if c = '\u05dc' then some .lamed
  else if isAlef c then some .alef
  else if isCoengLetter c then some .coengLetter
  else if c = '\u1a10' then some .ya
  else if isTifinaghConsonant c then some .consonant
  else if c = '\ua4fc' || c = '\ua4fd' then some .toneLetter
  else if c.toNat = 0x10C03 then some .orkhonI
  else none

/-- The cells that a character adds when it is drawn as one with the letters after it, and the
ligature that goes on before it, if it does; `joined` says whether a joiner stands in between. -/
def extend? (ligature : Ligature) (joined : Bool) (c : Char) : Option (Int × Option Ligature) :=
  match ligature with
  | .alef =>
      if isLam c then some (0, none)
      else if isArabicTransparent c then some (0, some .alef)
      else none
  | .lamed => if joined && c = '\u05d0' then some (0, none) else none
  | .coengLetter => if c = '\u17d2' then some (-1, none) else none
  | .ya => if joined && c = '\u1a17' then some (0, some .vowelYa) else none
  | .vowelYa => if c = '\u1a15' then some (0, none) else none
  | .consonant =>
      if c = '\u2d7f' then some (1, some .joinedConsonant)
      else if joined && isTifinaghConsonant c then some (0, none)
      else none
  | .joinedConsonant => if isTifinaghConsonant c then some (-1, none) else none
  | .toneLetter => if inRanges [(0xA4F8, 0xA4FB)] c then some (0, none) else none
  | .orkhonI => if joined && c.toNat = 0x10C32 then some (0, none) else none

end Ligature

end TracePlayer
