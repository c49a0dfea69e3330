/-
**Help.**

Main definitions:

* `CommandSpec.helpText`: the help on a command, in full or in short;
* `Halt.text`, `Halt.code`: what a command line that is not carried out prints, and its exit code.
-/
import TracePlayer.Command.Arguments
import TracePlayer.Text.Pad

set_option autoImplicit false

namespace TracePlayer

/-- A row of a list: what is explained, and the explanation. -/
abbrev HelpRow := String × List String

namespace OptionSpec

/-- The option with the word for its value. -/
def usage (option : OptionSpec) : String :=
  "      --" ++ option.name ++ match option.value with
    | some (word, _) => " <" ++ word ++ ">"
    | none => ""

/-- The option in short help. -/
def shortRow (option : OptionSpec) : HelpRow :=
  (option.usage, [option.help ++ match option.value with
    | some (_, .word words standard) =>
        " [default: " ++ standard ++ "] [possible values: "
          ++ String.intercalate ", " (words.map Prod.fst) ++ "]"
    | _ => ""])

/-- The option in full help. -/
def fullRow (option : OptionSpec) : HelpRow :=
  (option.usage, match option.value with
    | some (_, .word words standard) =>
        [option.help ++ "\n", "Possible values:"]
          ++ (words.map fun entry => "- " ++ entry.1 ++ ": " ++ entry.2)
          ++ ["", "[default: " ++ standard ++ "]"]
    | _ => [option.help])

/-- Whether the words that the option takes are explained one by one. -/
def explainsWords (option : OptionSpec) : Bool :=
  match option.value with
  | some (_, .word _ _) => true
  | _ => false

end OptionSpec

/-- A list with the explanations beside the rows. -/
def listBeside (rows : List HelpRow) : String :=
  let width := (rows.map fun row => row.1.length).foldl Nat.max 0
  String.join (rows.map fun row =>
    padRight width row.1 ++ "  " ++ String.intercalate " " row.2 ++ "\n")

/-- A list with the explanations below the rows. -/
def listBelow (rows : List HelpRow) : String :=
  String.intercalate "\n" (rows.map fun row =>
    row.1 ++ "\n" ++ String.join (row.2.map fun line => blanks 10 ++ line ++ "\n"))

namespace CommandSpec

/-- How the command is called. -/
def usage (command : CommandSpec) : String :=
  match command.operand with
  | some (word, _) => root.name ++ " " ++ command.name ++ " [OPTIONS] <" ++ word ++ ">"
  | none => command.name ++ " [OPTIONS] <COMMAND>"

/-- The commands, for the help on the root. -/
def listing : String :=
  "Commands:\n" ++ listBeside ((all.map fun command => ("  " ++ command.name, [command.about]))
    ++ [("  help", ["Print this message or the help of the given subcommand(s)"])]) ++ "\n"

/-- **The help on a command.**  Full help takes more room only where it says more. -/
def helpText (command : CommandSpec) (full : Bool) : String :=
  let explains := command.options.any OptionSpec.explainsWords
  let below := full && explains
  let list := if below then listBelow else listBeside
  let row := if below then OptionSpec.fullRow else OptionSpec.shortRow
  let more :=
    if !explains then "Print help"
    else if full then "Print help (see a summary with '-h')"
    else "Print help (see more with '--help')"
  command.about ++ "\n\nUsage: " ++ command.usage ++ "\n\n"
    ++ (match command.operand with
      | some (word, help) => "Arguments:\n" ++ list [("  <" ++ word ++ ">", [help])] ++ "\n"
      | none => listing)
    ++ "Options:\n" ++ list (command.options.map row ++ [("  -h, --help", [more])])

end CommandSpec

/-- The help on how to ask for help. -/
def helpOnHelpText : String :=
  "Print this message or the help of the given subcommand(s)\n\nUsage: "
    ++ CommandSpec.root.name ++ " help [COMMAND]...\n\nArguments:\n"
    ++ listBeside [("  [COMMAND]...", ["Print help for the subcommand(s)"])]

/-- What a command line that is not carried out prints. -/
def Halt.text : Halt → String
  | badUsage => ""
  | help command full => command.helpText full
  | helpOnHelp => helpOnHelpText

/-- Its exit code. -/
def Halt.code : Halt → Nat
  | badUsage => 2
  | _ => 0

end TracePlayer
