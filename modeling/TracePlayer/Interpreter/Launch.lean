/-
**How an interpreter is launched.**

Main definitions:

* `Launch`: the program, its arguments and how long to wait for it.
-/

set_option autoImplicit false

namespace TracePlayer

/-- How an interpreter is launched. -/
structure Launch where
  /-- The program. -/
  program : String
  /-- Its arguments. -/
  arguments : List String
  /-- How long it may take to become ready, in milliseconds. -/
  initTimeoutMillis : Nat
  /-- How long a run may take, in milliseconds. -/
  runTimeoutMillis : Nat
  deriving DecidableEq

namespace Launch

/-- The interpreter that is launched when none is asked for. -/
def standard : Launch := ⟨"tracescope-interpreter", [], 30000, 10000⟩

instance : Inhabited Launch := ⟨standard⟩

end Launch

end TracePlayer
