/-
**The cursor of a playback.**

Main definitions:

* `Cursor`: the step shown, whether the playback runs and its speed;
* `Cursor.forward`, `Cursor.backward`, `Cursor.seek`: moves inside the log.
-/
import TracePlayer.Binary64.Basic

set_option autoImplicit false

namespace TracePlayer

/-- The place of a playback. -/
structure Cursor where
  /-- The step shown. -/
  step : Nat
  /-- Whether the playback runs. -/
  playing : Bool
  /-- The speed. -/
  speed : Binary64
  deriving DecidableEq, Inhabited

namespace Cursor

/-- At the first step, stopped. -/
def start (speed : Binary64) : Cursor := ⟨0, false, speed⟩

/-- Some steps forward, but not past the last one. -/
def forward (cursor : Cursor) (count maxStep : Nat) : Cursor :=
  { cursor with step := Nat.min (cursor.step + count) maxStep }

/-- Some steps backward, but not past the first one. -/
def backward (cursor : Cursor) (count : Nat) : Cursor :=
  { cursor with step := cursor.step - count }

/-- At a step, or at the nearest one that exists. -/
def seek (cursor : Cursor) (step : Int) (maxStep : Nat) : Cursor :=
  { cursor with step := Nat.min step.toNat maxStep }

/-- At the first step again, stopped, at the same speed. -/
def rewind (cursor : Cursor) : Cursor := { cursor with step := 0, playing := false }

end Cursor

end TracePlayer
