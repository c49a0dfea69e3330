/-
**Clusters: the characters that a reader takes for one.**

A text is split between two characters unless the first is bound to the second.  Most bonds show in
the two characters alone; a joined picture, a flag and a conjunct of consonants look further back,
and `Behind` keeps what they need to know.

Main definitions:

* `Behind`, `Behind.push`: what stands before a place in a text;
* `Behind.binds`: whether the next character belongs to the same cluster;
* `clusters`: the pieces of a text.
-/
import TracePlayer.Text.BreakClass

set_option autoImplicit false

namespace TracePlayer

/-- What stands before a place in a text, as far as it can bind the next character. -/
structure Behind where
  /-- The class of the last character. -/
  last : BreakClass
  /-- Whether the text ends with a consonant and marks after it. -/
  conjunct : Bool
  /-- Whether one of these marks links consonants. -/
  linked : Bool
  /-- Whether the text ends with a picture and marks after it. -/
  picture : Bool
  /-- Whether the text ends with such a picture and one joiner. -/
  joined : Bool
  /-- Whether the text ends with an odd number of halves of flags. -/
  halfFlag : Bool

namespace Behind

/-- What stands behind the first character of a text. -/
def first (c : Char) : Behind :=
  let kind := BreakClass.ofChar c
  ⟨kind, kind == .consonant, false, kind == .picture, false, kind == .flag⟩

/-- Whether a character may stand between the consonants of a conjunct. -/
def keepsConjunct (c : Char) : Bool :=
  (BreakClass.ofChar c == .extend && c != '\u200c') || BreakClass.ofChar c == .joiner

/-- What stands behind one character more. -/
def push (behind : Behind) (c : Char) : Behind :=
  let kind := BreakClass.ofChar c
  let conjunct := behind.conjunct && keepsConjunct c
  { last := kind
    conjunct := kind == .consonant || conjunct
    linked := conjunct && (behind.linked || inRanges linkerRanges c)
    picture := kind == .picture || (behind.picture && kind == .extend)
    joined := behind.picture && kind == .joiner
    halfFlag := kind == .flag && !behind.halfFlag }

/-- Whether the next character belongs to the same cluster as the last one. -/
def binds (behind : Behind) (c : Char) : Bool :=
  match behind.last, BreakClass.ofChar c with
  | .carriageReturn, .lineFeed => true
  | .carriageReturn, _ | .lineFeed, _ | .control, _ => false
  | _, .carriageReturn | _, .lineFeed | _, .control => false
  | .leading, .leading | .leading, .vowel | .leading, .openSyllable
  | .leading, .closedSyllable => true
  | .openSyllable, .vowel | .openSyllable, .trailing | .vowel, .vowel | .vowel, .trailing => true
  | .closedSyllable, .trailing | .trailing, .trailing => true
  | _, .extend | _, .joiner | _, .spacing => true
  | .prepend, _ => true
  | _, .consonant => behind.conjunct && behind.linked
  | _, .picture => behind.joined
  | .flag, .flag => behind.halfFlag
  | _, _ => false

end Behind

/-- The rest of the cluster that stands behind a place, and the clusters after it. -/
def splitClusters : Behind → List Char → List Char × List (List Char)
  | _, [] => ([], [])
  | behind, c :: rest =>
      if behind.binds c then
        let (cluster, more) := splitClusters (behind.push c) rest
        (c :: cluster, more)
      else
        let (cluster, more) := splitClusters (.first c) rest
        ([], (c :: cluster) :: more)

/-- Splits a text into its clusters. -/
def clusterChars : List Char → List (List Char)
  | [] => []
  | c :: rest =>
      let (cluster, more) := splitClusters (.first c) rest
      (c :: cluster) :: more

/-- The clusters of a text. -/
def clusters (text : String) : List String := (clusterChars text.toList).map String.ofList

end TracePlayer
