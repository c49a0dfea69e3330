/-
**Reading a command line.**

Options may stand before and after the operand, their values follow after an equals sign or as the
next word.  A lone double hyphen ends the options.  The options of the root are also taken behind
the command, where they count more.

Main definitions:

* `Halt`: why a command line is not carried out;
* `Matches`, `Matches.scan`: the options and operands of one command;
* `splitArguments`: a command line with the matches in front of the command and behind it.
-/
import TracePlayer.Command.Options

set_option autoImplicit false

namespace TracePlayer

/-- Why a command line is not carried out. -/
inductive Halt where
  /-- It cannot be understood. -/
  | badUsage
  /-- It asks for help on a command, in full or in short. -/
  | help (command : CommandSpec) (full : Bool)
  /-- It asks for help on how to ask for help. -/
  | helpOnHelp
  deriving DecidableEq

/-- Whether a text looks like a number without a sign: digits, a point among them and an exponent
behind them. -/
def looksLikeNumber (text : List Char) : Bool :=
  go false false true text
where
  /-- The rest of such a text after a point, after an exponent and at the front. -/
  go (point exponent front : Bool) : List Char → Bool
    | [] => true
    | c :: rest =>
        if c.isDigit then go point exponent false rest
        else if c = '.' then !point && !exponent && !front && go true exponent false rest
        else if c = 'e' then !exponent && !front && !rest.isEmpty && go point true false rest
        else false

/-- The options and operands of one command. -/
structure Matches where
  /-- The operands. -/
  operands : List String
  /-- The options that were given, with their values; a switch has an empty one. -/
  values : List (String × String)
  deriving DecidableEq

namespace Matches

/-- No options and no operands. -/
def none : Matches := ⟨[], []⟩

/-- The value of an option. -/
def value? (given : Matches) (option : OptionSpec) : Option String :=
  given.values.lookup option.name

/-- Whether an option was given. -/
def has (given : Matches) (option : OptionSpec) : Bool := (given.value? option).isSome

/-- One more option; none may be given twice. -/
def addValue (given : Matches) (option : OptionSpec) (value : String) : Except Halt Matches :=
  if given.has option then .error .badUsage
  else .ok { given with values := given.values ++ [(option.name, value)] }

/-- One more option with a value, which has to be of its kind. -/
def addOption (given : Matches) (option : OptionSpec) (value : String) : Except Halt Matches :=
  match option.value with
  | some (_, kind) => if kind.accepts value then given.addValue option value else .error .badUsage
  | .none => .error .badUsage

/-- One more operand, if the command takes it. -/
def addOperand (command : CommandSpec) (given : Matches) (text : String) : Except Halt Matches :=
  if command.operand.isSome && given.operands.isEmpty && !text.isEmpty then
    .ok { given with operands := [text] }
  else .error .badUsage

/-! ### Words -/

/-- A word of a command line. -/
inductive Word where
  /-- Two hyphens alone. -/
  | escape
  /-- A long name behind two hyphens, with a value behind an equals sign. -/
  | long (name : String) (value : Option String)
  /-- Letters or digits behind one hyphen. -/
  | short (text : List Char)
  /-- Anything else. -/
  | plain

/-- What a word is. -/
def Word.of (text : String) : Word :=
  match text.toList with
  | ['-', '-'] => .escape
  | '-' :: '-' :: rest =>
      let name := String.ofList (rest.takeWhile (· ≠ '='))
      match rest.dropWhile (· ≠ '=') with
      | [] => .long name .none
      | _ :: value => .long name (some (String.ofList value))
  | '-' :: c :: rest => .short (c :: rest)
  | _ => .plain

/-- What is left of a command line at the name of a command. -/
abbrev Rest := Option (String × List String)

/-- Reads the words of a command.  A word that follows an option without a value is its value;
behind the escape all words are operands.  In front of a command a plain word names it and ends the
options. -/
def scan (command : CommandSpec) (given : Matches) (pending : Option OptionSpec)
    (escaped : Bool) : List String → Except Halt (Matches × Rest)
  | [] => if pending.isSome then .error .badUsage else .ok (given, .none)
  | text :: rest =>
      if escaped then do
        let given ← given.addOperand command text
        scan command given pending escaped rest
      else match Word.of text, pending with
        | .plain, some option => do
            let given ← given.addOption option text
            scan command given .none escaped rest
        | .plain, .none =>
            if command.operand.isNone then .ok (given, some (text, rest))
            else do
              let given ← given.addOperand command text
              scan command given .none escaped rest
        | .short digits, some option =>
            if option.allowsNegative && looksLikeNumber digits then do
              let given ← given.addOption option text
              scan command given .none escaped rest
            else .error .badUsage
        | _, some _ => .error .badUsage
        | .escape, .none => scan command given .none true rest
        | .short letters, .none =>
            if letters.head? = some 'h' then .error (.help command false) else .error .badUsage
        | .long name value, .none =>
            if name = "help" then
              if value.isSome then .error .badUsage else .error (.help command true)
            else match command.option? name, value with
              | .none, _ => .error .badUsage
              | some option, some value => do
                  let given ← given.addOption option value
                  scan command given .none escaped rest
              | some option, .none =>
                  if option.value.isSome then scan command given (some option) escaped rest
                  else do
                    let given ← given.addValue option ""
                    scan command given .none escaped rest

end Matches

/-- The help that the words behind `help` ask for. -/
def helpFor : List String → Halt
  | [] => .help .root true
  | [name] =>
      match CommandSpec.ofName? name with
      | some command => .help command true
      | none => if name = "help" then .helpOnHelp else .badUsage
  | _ => .badUsage

/-- **A command line** taken apart: the command, the options in front of it, and the options and
the operand behind it. -/
def splitArguments (arguments : List String) :
    Except Halt (CommandSpec × Matches × Matches × String) := do
  let (front, rest) ← Matches.scan .root .none none false arguments
  match rest with
  | none => .error .badUsage
  | some (name, words) =>
      match CommandSpec.ofName? name with
      | none => if name = "help" then .error (helpFor words) else .error .badUsage
      | some command => do
          let (given, _) ← Matches.scan command .none none false words
          match given.operands with
          | [operand] => .ok (command, front, given, operand)
          | _ => .error .badUsage

end TracePlayer
