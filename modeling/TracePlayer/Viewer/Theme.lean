/-
**Colour schemes.**

Main definitions:

* `ColorScheme`, `ColorScheme.ofName?`: the schemes and their names;
* `Theme`, `Theme.ofScheme`: the colours of the panels.
-/
import TracePlayer.Screen.Style
import TracePlayer.Trace.Field

set_option autoImplicit false

namespace TracePlayer

/-- A choice of colours. -/
inductive ColorScheme where
  | standard
  | highContrast
  | dark
  | light
  deriving DecidableEq

namespace ColorScheme

/-- The schemes. -/
def all : List ColorScheme := [standard, highContrast, dark, light]

/-- The name of a scheme. -/
def name : ColorScheme → String
  | standard => "default"
  | highContrast => "high-contrast"
  | dark => "dark"
  | light => "light"

/-- The scheme of a name. -/
def ofName? (name : String) : Option ColorScheme := all.find? fun scheme => scheme.name == name

/-- The words for a name that no scheme has. -/
def unknownText (name : String) : String :=
  "unknown variant `" ++ name ++ "`, expected one of "
    ++ String.intercalate ", " (all.map fun scheme => "`" ++ scheme.name ++ "`")

/-- The scheme that a JSON value stands for: its name, or an object that binds the name to
`null`. -/
def decode : Json → Except String ColorScheme
  | .str name =>
      match ofName? name with
      | some scheme => .ok scheme
      | none => .error (unknownText name)
  | .obj [(name, value)] =>
      match ofName? name, value with
      | none, _ => .error (unknownText name)
      | some scheme, .null => .ok scheme
      | some _, value => .error ("invalid type: " ++ value.describe ++ ", expected unit")
  | .obj _ => .error "invalid value: map, expected map with a single key"
  | value => .error ("invalid type: " ++ value.describe ++ ", expected string or map")

end ColorScheme

/-- The colours of the panels. -/
structure Theme where
  /-- Behind the current line and the selected frame. -/
  highlight : Color
  /-- Function and variable names. -/
  accent : Color
  /-- Line numbers, frame numbers and hints. -/
  muted : Color
  /-- Variables that the last step changed. -/
  changed : Color
  /-- Exceptions. -/
  error : Color
  deriving DecidableEq

namespace Theme

/-- The colours of a scheme. -/
def ofScheme : ColorScheme → Theme
  | .standard | .dark => ⟨.rgb 20 83 45, .green, .darkGray, .yellow, .red⟩
  | .light => ⟨.rgb 209 250 229, .rgb 4 120 87, .gray, .rgb 180 83 9, .red⟩
  | .highContrast => ⟨.white, .cyan, .white, .yellow, .lightRed⟩

/-- The style of the current line and the selected frame; on white the text is black. -/
def highlightStyle (theme : Theme) : Style where
  foreground := if theme.highlight = .white then some .black else none
  background := some theme.highlight
  bold := true

end Theme

end TracePlayer
