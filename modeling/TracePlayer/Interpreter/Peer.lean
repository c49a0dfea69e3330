/-
**The program at the other end.**

An interpreter is a program that reads request lines and writes bytes.  It is described by the list
of its actions and acts until it has to wait.

Main definitions:

* `Peer.Action`: what such a program can do;
* `Peer`: what it still does, and the lines that wait for it;
* `Peer.advance`: what it writes until it waits or ends.
-/
import TracePlayer.Text.Utf8

set_option autoImplicit false

namespace TracePlayer

/-- What the program at the other end can do. -/
inductive Peer.Action where
  /-- Reads a line. -/
  | read
  /-- Writes a line. -/
  | print (line : String)
  /-- Writes bytes. -/
  | printBytes (bytes : List UInt8)
  /-- Writes a trace that holds the line read last. -/
  | printEcho
  /-- Reads no further lines. -/
  | closeInput
  /-- Ends. -/
  | exit
  /-- Waits for ever. -/
  | hang
  deriving DecidableEq

/-- The program at the other end. -/
structure Peer where
  /-- What it still does; at the end of the list it ends. -/
  actions : List Peer.Action
  /-- The lines sent to it that it has not read. -/
  inbox : List String
  /-- The line it read last. -/
  lastRead : String
  /-- Whether it still takes lines. -/
  takesInput : Bool
  /-- Whether it has ended. -/
  ended : Bool
  deriving DecidableEq

namespace Peer

/-- A program that has not done anything yet. -/
def start (actions : List Action) : Peer := ⟨actions, [], "", true, false⟩

/-- The bytes of a line. -/
def lineBytes (line : String) : List UInt8 := (line ++ "\n").toUTF8.toList

/-- The line of a trace with one event that holds a request line. -/
def echo (line : String) : String :=
  "\x7b\"type\":\"trace\",\"payload\":\x7b\"trace\":["
    ++ "\x7b\"step\":1,\"event\":\"Line\",\"fid\":1,\"req\":" ++ line ++ "\x7d]\x7d\x7d"

/-- Some actions of a program up to the first one that has to wait: the bytes it writes, and what
has become of it. -/
def perform (inbox : List String) (lastRead : String) (takesInput : Bool) :
    List Action → List UInt8 × Peer
  | [] => ([], ⟨[], [], lastRead, false, true⟩)
  | .exit :: _ => ([], ⟨[], [], lastRead, false, true⟩)
  | .hang :: rest => ([], ⟨.hang :: rest, inbox, lastRead, takesInput, false⟩)
  | .closeInput :: rest => perform [] lastRead false rest
  | .read :: rest =>
      if takesInput then
        match inbox with
        | [] => ([], ⟨.read :: rest, [], lastRead, takesInput, false⟩)
        | line :: inbox => perform inbox line takesInput rest
      else perform inbox "" takesInput rest
  | .print line :: rest =>
      let (bytes, peer) := perform inbox lastRead takesInput rest
      (lineBytes line ++ bytes, peer)
  | .printBytes bytes :: rest =>
      let (more, peer) := perform inbox lastRead takesInput rest
      (bytes ++ more, peer)
  | .printEcho :: rest =>
      let (bytes, peer) := perform inbox lastRead takesInput rest
      (lineBytes (echo lastRead) ++ bytes, peer)

/-- **What the program writes until it waits or ends.** -/
def advance (peer : Peer) : List UInt8 × Peer :=
  if peer.ended then ([], peer)
  else perform peer.inbox peer.lastRead peer.takesInput peer.actions

/-- The program after a line has been sent to it. -/
def take (peer : Peer) (line : String) : Peer := { peer with inbox := peer.inbox ++ [line] }

end Peer

end TracePlayer
