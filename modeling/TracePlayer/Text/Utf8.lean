/-
**Bytes as text.**

Main definitions:

* `Utf8Fault`, `Utf8Fault.message`: why bytes are not a text;
* `decodeUtf8`: the characters that bytes stand for, read byte by byte.
-/

set_option autoImplicit false

namespace TracePlayer

/-- Why bytes are not a text. -/
inductive Utf8Fault where
  /-- The bytes from an index on cannot begin a character. -/
  | invalid (index length : Nat)
  /-- The last character, which begins at an index, is cut off. -/
  | incomplete (index : Nat)
  deriving DecidableEq

/-- The words for a fault. -/
def Utf8Fault.message : Utf8Fault → String
  | invalid index length =>
      "invalid utf-8 sequence of " ++ toString length ++ " bytes from index " ++ toString index
  | incomplete index => "incomplete utf-8 byte sequence from index " ++ toString index

namespace Utf8

/-- A character of which the first bytes have been read. -/
structure Pending where
  /-- The index of its first byte. -/
  start : Nat
  /-- The number of bytes read. -/
  seen : Nat
  /-- The number of bytes that are missing. -/
  missing : Nat
  /-- The least byte that may come next. -/
  low : Nat
  /-- The greatest byte that may come next. -/
  high : Nat
  /-- The bits read so far. -/
  code : Nat
  deriving DecidableEq

/-- What the first byte of a character of several bytes says about the rest.  The bounds of the
second byte exclude needlessly long forms, surrogates and numbers beyond the last character. -/
def begin? (index byte : Nat) : Option Pending :=
  if byte < 0xC2 then none
  else if byte < 0xE0 then some ⟨index, 1, 1, 0x80, 0xBF, byte - 0xC0⟩
  else if byte = 0xE0 then some ⟨index, 1, 2, 0xA0, 0xBF, 0⟩
  else if byte = 0xED then some ⟨index, 1, 2, 0x80, 0x9F, byte - 0xE0⟩
  else if byte < 0xF0 then some ⟨index, 1, 2, 0x80, 0xBF, byte - 0xE0⟩
  else if byte = 0xF0 then some ⟨index, 1, 3, 0x90, 0xBF, 0⟩
  else if byte < 0xF4 then some ⟨index, 1, 3, 0x80, 0xBF, byte - 0xF0⟩
  else if byte = 0xF4 then some ⟨index, 1, 3, 0x80, 0x8F, byte - 0xF0⟩
  else none

/-- The bits with those of one more byte. -/
def Pending.extended (pending : Pending) (byte : Nat) : Nat := pending.code * 64 + (byte - 0x80)

/-- The characters of the bytes from an index on. -/
def decodeFrom (index : Nat) (pending : Option Pending) :
    List UInt8 → Except Utf8Fault (List Char)
  | [] =>
      match pending with
      | none => .ok []
      | some pending => .error (.incomplete pending.start)
  | byte :: rest =>
      match pending with
      | none =>
          if byte.toNat < 0x80 then
            (decodeFrom (index + 1) none rest).map (Char.ofNat byte.toNat :: ·)
          else match begin? index byte.toNat with
            | none => .error (.invalid index 1)
            | some pending => decodeFrom (index + 1) (some pending) rest
      | some pending =>
          if byte.toNat < pending.low ∨ pending.high < byte.toNat then
            .error (.invalid pending.start pending.seen)
          else if pending.missing = 1 then
            (decodeFrom (index + 1) none rest).map (Char.ofNat (pending.extended byte.toNat) :: ·)
          else
            decodeFrom (index + 1) (some
              { pending with
                seen := pending.seen + 1, missing := pending.missing - 1
                low := 0x80, high := 0xBF, code := pending.extended byte.toNat }) rest

end Utf8

/-- The text that bytes stand for. -/
def decodeUtf8 (bytes : List UInt8) : Except Utf8Fault String :=
  (Utf8.decodeFrom 0 none bytes).map String.ofList

end TracePlayer
