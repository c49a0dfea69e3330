/-
**How much is logged, and where.**

Main definitions:

* `LogLevel.ofFilter`: the level that a filter lets through;
* `LogTarget.select`: the place of the log.
-/
import TracePlayer.Settings.LogRule

set_option autoImplicit false

namespace TracePlayer

namespace LogLevel

/-- The level used when none is asked for. -/
def standard : LogLevel := info

/-- The level of some rules: the loudest of them, or all of it if one compares values, which are
not known before they are logged. -/
def ofRules (rules : List LogRule) : LogLevel :=
  if rules.any LogRule.comparesValues then trace
  else (rules.map LogRule.level).foldl louder off

/-- **The level that a filter lets through.**  The first of its rules is about this program.  A
filter with a rule that cannot be read is not used; with a rule that would be cut inside a
character there is no answer. -/
def ofFilter : Option String → Option LogLevel
  | none => some standard
  | some text =>
      let rules := LogRule.pieces ',' ("tracescope=" ++ text).toList
      match (rules.filter fun rule => !rule.isEmpty).mapM LogRule.parse with
      | .ok rules => some (ofRules rules)
      | .error .malformed => some standard
      | .error .cutInside => none

end LogLevel

/-- The place of the log. -/
inductive LogTarget where
  | file (path : String)
  | nowhere
  | standardError
  deriving DecidableEq

/-- The place of the log: a file if one is asked for; otherwise nowhere if the screen is in use. -/
def LogTarget.select (file : Option String) (fullScreen : Bool) : LogTarget :=
  match file with
  | some path => .file path
  | none => if fullScreen then .nowhere else .standardError

end TracePlayer
