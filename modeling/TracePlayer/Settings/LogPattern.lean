/-
**Patterns for the values in a log filter.**

A filter may compare a value with a pattern.  No pattern is ever matched here, but a filter with a
text that is no pattern is not used at all, so this module says which texts are patterns.  Classes
of characters that need tables of all scripts, and the edges of words, are refused.

Main definitions:

* `LogPattern.Token`, `LogPattern.tokens?`: a pattern with its escapes resolved;
* `LogPattern.Place`, `LogPattern.accepts`: where in a pattern one is, and what may follow there;
* `isLogPattern`: whether a text is a pattern.
-/

set_option autoImplicit false

namespace TracePlayer

namespace LogPattern

/-! ### Escapes -/

/-- A piece of a pattern. -/
inductive Token where
  /-- A character as it is written. -/
  | plain (c : Char)
  /-- A character that stands for itself because of an escape. -/
  | literal (c : Char)
  /-- The begin or the end of the text. -/
  | anchor
  deriving DecidableEq

/-- The number that hexadecimal digits stand for. -/
def hexNumber? (digits : List Char) : Option Nat :=
  digits.foldl
    (fun number c =>
      let digit :=
        if '0' ≤ c && c ≤ '9' then some (c.toNat - 48)
        else if 'a' ≤ c && c ≤ 'f' then some (c.toNat - 87)
        else if 'A' ≤ c && c ≤ 'F' then some (c.toNat - 55)
        else none
      number.bind fun n => digit.map fun d => 16 * n + d)
    (some 0)

/-- The character that hexadecimal digits stand for, if there is one. -/
def hexToken? (digits : List Char) : Option Token :=
  (hexNumber? digits).bind fun n =>
    if n < 0xD800 || (0xE000 ≤ n && n ≤ 0x10FFFF) then some (.literal (Char.ofNat n)) else none

/-- What a backslash and one character stand for; a letter or a digit without a meaning of its own
cannot be escaped. -/
def escape? (c : Char) : Option Token :=
  if c = 'a' then some (.literal '\x07')
  else if c = 'f' then some (.literal '\x0c')
  else if c = 't' then some (.literal '\t')
  else if c = 'n' then some (.literal '\n')
  else if c = 'r' then some (.literal '\r')
  else if c = 'v' then some (.literal '\x0b')
  else if c = 'A' || c = 'z' then some .anchor
  else if c.isAlphanum || c = '<' || c = '>' || decide (0x80 ≤ c.toNat) then none
  else some (.literal c)

/-- A pattern with its escapes resolved. -/
def tokens? : List Char → Option (List Token)
  | [] => some []
  | '\\' :: 'x' :: a :: b :: rest =>
      (hexToken? [a, b]).bind fun token => (tokens? rest).map (token :: ·)
  | '\\' :: 'u' :: a :: b :: c :: d :: rest =>
      (hexToken? [a, b, c, d]).bind fun token => (tokens? rest).map (token :: ·)
  | '\\' :: 'U' :: a :: b :: c :: d :: e :: f :: g :: h :: rest =>
      (hexToken? [a, b, c, d, e, f, g, h]).bind fun token => (tokens? rest).map (token :: ·)
  | '\\' :: c :: rest => (escape? c).bind fun token => (tokens? rest).map (token :: ·)
  | ['\\'] => none
  | c :: rest => (tokens? rest).map (.plain c :: ·)

/-! ### Structure -/

/-- A place in a pattern, inside a number of open groups. -/
inductive Place where
  /-- In the text, after something that may be repeated or not. -/
  | text (groups : Nat) (repeatable : Bool)
  /-- Before the question mark of a group that is not plain. -/
  | mark (groups : Nat)
  /-- Among the flags of a group. -/
  | flags (groups : Nat) (given : List Char)
  /-- In the name of a group, at its first character or later. -/
  | name (groups : Nat) (first : Bool)
  /-- After the bracket that opens a set of characters, inside a number of open brackets. -/
  | opened (groups brackets : Nat)
  /-- At the first character of a set, or after dashes there. -/
  | start (groups brackets : Nat) (dashed : Bool)
  /-- In a set, after a character that may begin a range or not. -/
  | set (groups brackets : Nat) (low : Option Char)
  /-- In a set, behind the dash of a range. -/
  | range (groups brackets : Nat) (low : Char)
  /-- In a set, before the second character of an operator. -/
  | operator (groups brackets : Nat)
  deriving DecidableEq

/-- Whether flags may be given together: each one once, with one dash at most and not at the end.
The flag that ignores case needs tables of all scripts and may only be taken away. -/
def flagsAgree (given : List Char) : Bool :=
  given.all ("imsURux-".toList.contains ·) && decide given.Nodup && given.getLast? != some '-'
    && !(given.takeWhile (· ≠ '-')).contains 'i'

/-- The place after a piece of a text inside some groups, if the piece may stand there. -/
def Place.afterText? (groups : Nat) (repeatable : Bool) (token : Token) (next : Option Token) :
    Option Place :=
  match token with
  | .plain '(' =>
      if next = some (.plain '?') then some (.mark groups) else some (.text (groups + 1) false)
  | .plain ')' => if groups = 0 then none else some (.text (groups - 1) true)
  | .plain '|' => some (.text groups false)
  | .plain '[' => some (.opened groups 1)
  | .plain '\x7b' => none
  | .plain '*' | .plain '+' | .plain '?' => if repeatable then some (.text groups true) else none
  | _ => some (.text groups true)

/-- The place after a piece of a set of characters, if the piece may stand there. -/
def Place.afterSet? (groups brackets : Nat) (low : Option Char) (token : Token)
    (next : Option Token) : Option Place :=
  match token with
  | .plain ']' =>
      if brackets ≤ 1 then some (.text groups true) else some (.set groups (brackets - 1) none)
  | .plain '[' => some (.opened groups (brackets + 1))
  | .plain '-' =>
      match low with
      | some c =>
          if next = some token then some (.operator groups brackets)
          else if next = some (.plain ']') then some (.set groups brackets none)
          else some (.range groups brackets c)
      | none =>
          if next = some token then some (.operator groups brackets)
          else some (.set groups brackets (some '-'))
  | .plain c =>
      if (c = '&' || c = '~') && next = some token then some (.operator groups brackets)
      else some (.set groups brackets (some c))
  | .literal c => some (.set groups brackets (some c))
  | .anchor => none

/-- The place after a piece of a group, if the piece may stand there. -/
def Place.afterFlags? (groups : Nat) (given : List Char) (token : Token) : Option Place :=
  match token with
  | .plain ':' => if flagsAgree given then some (.text (groups + 1) false) else none
  | .plain ')' =>
      if !given.isEmpty && flagsAgree given then some (.text groups false) else none
  | .plain '<' =>
      if given = [] || given = ['P'] then some (.name (groups + 1) true) else none
  | .plain c => some (.flags groups (given ++ [c]))
  | _ => none

/-- The place after a piece of a name, if the piece may stand there. -/
def Place.afterName? (groups : Nat) (first : Bool) (token : Token) : Option Place :=
  match token with
  | .plain '>' => if first then none else some (.text groups false)
  | .plain c =>
      if c.isAlpha || c = '_' || (!first && (c.isDigit || ".[]".toList.contains c)) then
        some (.name groups false)
      else none
  | _ => none

/-- The place after a piece, if the piece may stand there; the piece behind it decides some
cases. -/
def Place.after? (place : Place) (token : Token) (next : Option Token) : Option Place :=
  match place with
  | .text groups repeatable => afterText? groups repeatable token next
  | .mark groups => some (.flags groups [])
  | .flags groups given => afterFlags? groups given token
  | .name groups first => afterName? groups first token
  | .opened groups brackets =>
      if token = .plain '^' then some (.start groups brackets false)
      else if token = .plain '-' then some (.start groups brackets true)
      else if token = .plain ']' then some (.set groups brackets none)
      else afterSet? groups brackets none token next
  | .start groups brackets dashed =>
      if token = .plain '-' then some (.start groups brackets true)
      else if token = .plain ']' && !dashed then some (.set groups brackets none)
      else afterSet? groups brackets none token next
  | .set groups brackets low => afterSet? groups brackets low token next
  | .range groups brackets low =>
      match token with
      | .plain c | .literal c => if low ≤ c then some (.set groups brackets none) else none
      | .anchor => none
  | .operator groups brackets => some (.set groups brackets none)

/-- Whether the rest of a pattern may follow at a place. -/
def accepts (place : Place) : List Token → Bool
  | [] => place = .text 0 true || place = .text 0 false
  | token :: rest =>
      match place.after? token rest.head? with
      | some place => accepts place rest
      | none => false

end LogPattern

/-- Whether a text is a pattern. -/
def isLogPattern (text : String) : Bool :=
  match LogPattern.tokens? text.toList with
  | some tokens => LogPattern.accepts (.text 0 false) tokens
  | none => false

end TracePlayer
