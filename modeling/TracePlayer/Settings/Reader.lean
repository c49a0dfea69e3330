/-
**Reading settings.**

Settings are a JSON document with the sections `playback`, `replay`, `sandbox` and `tui`.  Every
section and every part of one may be missing and then keeps its standard value.

Main definitions:

* `Settings.parts` and the parts of its sections: what can be set, in the order of an array;
* `Settings.parse?`: the settings that a text stands for.
-/
import TracePlayer.Json.Record
import TracePlayer.Settings.Basic

set_option autoImplicit false

namespace TracePlayer

/-- What can be set about the pace. -/
def Pacing.parts : List (RecordPart Pacing) :=
  [.of "min_wait_ms" (Json.Raw.natural? UInt64.size) fun n pacing =>
      { pacing with minWaitMillis := n },
    .of "default_speed" Json.Raw.double? fun x pacing => { pacing with defaultSpeed := x },
    .of "min_speed" Json.Raw.double? fun x pacing => { pacing with minSpeed := x },
    .of "max_speed" Json.Raw.double? fun x pacing => { pacing with maxSpeed := x },
    .of "speed_step" Json.Raw.double? fun x pacing => { pacing with speedStep := x },
    .of "speed_floor" Json.Raw.double? fun x pacing => { pacing with speedFloor := x }]

/-- What can be set about checkpoints. -/
def Checkpoints.parts : List (RecordPart Nat) :=
  [.of "checkpoint_interval" (Json.Raw.natural? UInt64.size) fun n _ => n]

/-- What can be set about the interpreter. -/
def Launch.parts : List (RecordPart Launch) :=
  [.of "program" Json.Raw.text? fun text launch => { launch with program := text },
    .of "args" Json.Raw.texts? fun texts launch => { launch with arguments := texts },
    .of "init_timeout_ms" (Json.Raw.natural? UInt64.size) fun n launch =>
      { launch with initTimeoutMillis := n },
    .of "run_timeout_ms" (Json.Raw.natural? UInt64.size) fun n launch =>
      { launch with runTimeoutMillis := n }]

/-- What can be set about the sizes. -/
def LayoutConfig.parts : List (RecordPart LayoutConfig) :=
  [.of "source_percent" (Json.Raw.natural? UInt16.size) fun n config =>
      { config with sourcePercent := n },
    .of "status_height" (Json.Raw.natural? UInt16.size) fun n config =>
      { config with statusHeight := n },
    .of "stdout_height" (Json.Raw.natural? UInt16.size) fun n config =>
      { config with stdoutHeight := n }]

/-- The colours that a raw form names: the name itself, or an object that binds it to `null`. -/
def ColorScheme.read? : Json.Raw → Option ColorScheme
  | .str name => (Json.unescape? name).bind ofName?
  | .obj [(name, .null)] => (Json.unescape? name).bind ofName?
  | _ => none

/-- What can be set about the viewer. -/
def ScreenSettings.parts : List (RecordPart ScreenSettings) :=
  [.of "tick_rate_ms" (Json.Raw.natural? UInt64.size) fun n screen =>
      { screen with tickMillis := n },
    .of "color_scheme" ColorScheme.read? fun scheme screen => { screen with scheme := scheme },
    .of "layout" (readRecord LayoutConfig.parts .standard) fun config screen =>
      { screen with layout := config }]

namespace Settings

/-- What can be set. -/
def parts : List (RecordPart Settings) :=
  [.of "playback" (readRecord Pacing.parts .standard) fun pacing settings =>
      { settings with pacing := pacing },
    .of "replay" (readRecord Checkpoints.parts Checkpoints.defaultInterval) fun n settings =>
      { settings with interval := n },
    .of "sandbox" (readRecord Launch.parts .standard) fun launch settings =>
      { settings with launch := launch },
    .of "tui" (readRecord ScreenSettings.parts .standard) fun screen settings =>
      { settings with screen := screen }]

/-- The settings that a text stands for. -/
def parse? (text : String) : Option Settings :=
  (Json.Raw.read? text).bind (readRecord parts .standard)

/-- Why settings cannot be used. -/
inductive Fault where
  /-- The file cannot be read. -/
  | unreadable
  /-- The text does not stand for settings. -/
  | malformed
  deriving DecidableEq

/-- The settings of a file, the standard ones if no file is asked for. -/
def load : Option (Option String) → Except Fault Settings
  | none => .ok standard
  | some none => .error .unreadable
  | some (some text) =>
      match parse? text with
      | some settings => .ok settings
      | none => .error .malformed

end Settings

end TracePlayer
