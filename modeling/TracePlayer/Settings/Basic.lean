/-
**Settings.**

Main definitions:

* `ScreenSettings`: how often and in which colours and sizes the viewer draws;
* `Settings`: all that can be set;
* `Settings.withProgram`, `Settings.withSpeed`: what the command line overrides;
* `Settings.encode`: the settings as a JSON value.
-/
import TracePlayer.Interpreter.Launch
import TracePlayer.Playback.Pacing
import TracePlayer.Timeline.Checkpoints
import TracePlayer.Viewer.Layout
import TracePlayer.Viewer.Theme

set_option autoImplicit false

namespace TracePlayer

/-- How the viewer draws. -/
structure ScreenSettings where
  /-- The distance between two ticks, in milliseconds. -/
  tickMillis : Nat
  /-- The colours. -/
  scheme : ColorScheme
  /-- The sizes. -/
  layout : LayoutConfig
  deriving DecidableEq

namespace ScreenSettings

/-- What is used when nothing is asked for. -/
def standard : ScreenSettings := ⟨16, .standard, .standard⟩

/-- The distance between two ticks in nanoseconds, at least a millisecond. -/
def tickPeriod (screen : ScreenSettings) : Nat := Nat.max screen.tickMillis 1 * Delta.perMilli

end ScreenSettings

/-- All that can be set. -/
structure Settings where
  /-- The pace of a playback. -/
  pacing : Pacing
  /-- The number of events between two checkpoints. -/
  interval : Nat
  /-- The interpreter. -/
  launch : Launch
  /-- The viewer. -/
  screen : ScreenSettings
  deriving DecidableEq

namespace Settings

/-- What is used when nothing is asked for. -/
def standard : Settings := ⟨.standard, Checkpoints.defaultInterval, .standard, .standard⟩

instance : Inhabited Settings := ⟨standard⟩

/-- The settings with another interpreter, if one is asked for. -/
def withProgram (settings : Settings) : Option String → Settings
  | none => settings
  | some program => { settings with launch := { settings.launch with program := program } }

/-- The settings with another speed at the beginning, if one is asked for. -/
def withSpeed (settings : Settings) : Option Binary64 → Settings
  | none => settings
  | some speed => { settings with pacing := { settings.pacing with defaultSpeed := speed } }

end Settings

/-! ### Settings as JSON -/

/-- The pace as a JSON object. -/
def Pacing.encode (pacing : Pacing) : Json :=
  .obj [("min_wait_ms", .ofNat pacing.minWaitMillis),
    ("default_speed", .ofBinary64 pacing.defaultSpeed), ("min_speed", .ofBinary64 pacing.minSpeed),
    ("max_speed", .ofBinary64 pacing.maxSpeed), ("speed_step", .ofBinary64 pacing.speedStep),
    ("speed_floor", .ofBinary64 pacing.speedFloor)]

/-- The launch as a JSON object. -/
def Launch.encode (launch : Launch) : Json :=
  .obj [("program", .str launch.program), ("args", .arr (launch.arguments.map .str)),
    ("init_timeout_ms", .ofNat launch.initTimeoutMillis),
    ("run_timeout_ms", .ofNat launch.runTimeoutMillis)]

/-- The sizes as a JSON object. -/
def LayoutConfig.encode (config : LayoutConfig) : Json :=
  .obj [("source_percent", .ofNat config.sourcePercent),
    ("status_height", .ofNat config.statusHeight), ("stdout_height", .ofNat config.stdoutHeight)]

/-- How the viewer draws, as a JSON object. -/
def ScreenSettings.encode (screen : ScreenSettings) : Json :=
  .obj [("tick_rate_ms", .ofNat screen.tickMillis), ("color_scheme", .str screen.scheme.name),
    ("layout", screen.layout.encode)]

/-- The settings as a JSON object. -/
def Settings.encode (settings : Settings) : Json :=
  .obj [("playback", settings.pacing.encode),
    ("replay", .obj [("checkpoint_interval", .ofNat settings.interval)]),
    ("sandbox", settings.launch.encode), ("tui", settings.screen.encode)]

end TracePlayer
