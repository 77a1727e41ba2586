import AtomicCss.Text.DecimalDigit

/-!
Contract: the arguments of a command line.

Owns:
- the commands and what can be asked of each;
- which arguments switches and commands have, and how they are written;
- reading arguments, one after the other.

Does not own: what a command does.
-/

namespace AtomicCss.CommandLine

/-! ## Commands -/

/-- How the command that compiles class names shows the result. -/
inductive OutputFormat where
  | css
  | html
  | json
  /-- All that class names contribute, then the stylesheet. -/
  | outline
deriving DecidableEq, Repr

/-- The output format of a name. -/
def OutputFormat.ofName? (name : Text) : Option OutputFormat :=
  [("css".toList, OutputFormat.css), ("html".toList, .html), ("json".toList, .json),
    ("debug".toList, .outline)].lookup name

/-- The name of a command. -/
inductive CommandName where
  | build
  | compile
  | check
  /-- Tells how the program is used. -/
  | help
deriving DecidableEq, Repr

/-- The command of a name. -/
def CommandName.ofName? (name : Text) : Option CommandName :=
  [("build".toList, CommandName.build), ("compile".toList, .compile),
    ("check".toList, .check), ("help".toList, .help)].lookup name

/-- What is asked of the command that writes a stylesheet file. -/
structure BuildRequest where
  inputs : List Text
  output : Option Text
  recursive : Bool
  statistics : Bool
  canonical : Bool
  ceiling : Option Nat
deriving DecidableEq, Repr

/-- What is asked of the command that compiles class names. -/
structure CompileRequest where
  classLists : List Text
  format : OutputFormat
  canonical : Bool
deriving DecidableEq, Repr

/-- What is asked of the command that looks for mistakes. -/
structure CheckRequest where
  inputs : List Text
  recursive : Bool
deriving DecidableEq, Repr

/-- A command with what is asked of it. -/
inductive Command where
  | build (request : BuildRequest)
  | compile (request : CompileRequest)
  | check (request : CheckRequest)
deriving DecidableEq, Repr

/-- What a command line asks for. -/
structure Invocation where
  settingsPath : Option Text
  verbose : Bool
  command : Option Command
deriving DecidableEq, Repr

/-- Why a command line asks for nothing. -/
inductive Stop where
  /-- The arguments are not those of any command. -/
  | misuse
  | help
  | version
deriving DecidableEq, Repr

/-! ## Switches -/

/-- The switches of all commands. -/
inductive Switch where
  | settings
  | verbose
  | help
  | version
  | output
  | recursive
  | statistics
  | canonical
  | ceiling
  | format
deriving DecidableEq, Repr

/-- The name of a switch, and the letter of those that have one. -/
def Switch.spelling : Switch → String × Option Char
  | .settings => ("config", some 'c')
  | .verbose => ("verbose", some 'v')
  | .help => ("help", some 'h')
  | .version => ("version", some 'V')
  | .output => ("output", some 'o')
  | .recursive => ("recursive", some 'r')
  | .statistics => ("stats", none)
  | .canonical => ("canonical", none)
  | .ceiling => ("max-depth", none)
  | .format => ("format", some 'f')

/-- The switch has a value. -/
def Switch.hasValue : Switch → Bool
  | .settings | .output | .ceiling | .format => true
  | _ => false

/-- The switches of a command, or of the command line before its command. -/
def switches : Option CommandName → List Switch
  | none => [.settings, .verbose, .help, .version]
  | some .build =>
      [.settings, .verbose, .help, .output, .recursive, .statistics, .canonical, .ceiling]
  | some .compile => [.settings, .verbose, .help, .format, .canonical]
  | some .check => [.settings, .verbose, .help, .recursive]
  | some .help => []

/-- The switch of a command that has a name. -/
def named? (command : Option CommandName) (name : Text) : Option Switch :=
  (switches command).find? fun switch => switch.spelling.1.toList = name

/-- The switch of a command that has a letter. -/
def lettered? (command : Option CommandName) (letter : Char) : Option Switch :=
  (switches command).find? fun switch => switch.spelling.2 = some letter

/-! ## Reading -/

/-- What arguments have told so far. -/
structure Progress where
  /-- The switches of the current command that were given. -/
  given : List Switch
  /-- The switch that waits for its value. -/
  pending : Option Switch
  /-- Nothing that follows is a switch. -/
  trailing : Bool
  command : Option CommandName
  /-- The arguments of the command that are no switches. -/
  operands : List Text
  settingsPath : Option Text
  verbose : Bool
  output : Option Text
  ceiling : Option Nat
  format : OutputFormat
deriving DecidableEq, Repr

/-- Before the first argument. -/
def Progress.start : Progress where
  given := []
  pending := none
  trailing := false
  command := none
  operands := []
  settingsPath := none
  verbose := false
  output := none
  ceiling := none
  format := .css

/-- A number of levels, with or without a plus sign. -/
def levels? (written : Text) : Option Nat :=
  Text.toNatBelow? wordLimit ((Text.after? ['+'] written).getD written)

/-- Take a switch.  Only one may be given twice. -/
def give (progress : Progress) (switch : Switch) : Except Stop Progress :=
  match switch with
  | .help => .error .help
  | .version => .error .version
  | .verbose => .ok { progress with verbose := true }
  | _ =>
      if progress.given.contains switch then .error .misuse
      else .ok { progress with given := switch :: progress.given }

/-- Take a switch with its value. -/
def giveValue (progress : Progress) (switch : Switch) (value : Text) :
    Except Stop Progress := do
  let taken ← give progress switch
  match switch with
  | .settings => return { taken with settingsPath := some value }
  | .output => return { taken with output := some value }
  | .ceiling =>
      match levels? value with
      | some levels => return { taken with ceiling := some levels }
      | none => throw .misuse
  | .format =>
      match OutputFormat.ofName? value with
      | some format => return { taken with format := format }
      | none => throw .misuse
  | _ => throw .misuse

/-- Take a switch that may have a value attached to it. -/
def giveAttached (progress : Progress) (switch : Switch) (attached : Option Text) :
    Except Stop Progress :=
  match switch.hasValue, attached with
  | true, some value => giveValue progress switch value
  | true, none => .ok { progress with pending := some switch }
  | false, none => give progress switch
  | false, some _ => .error .misuse

/-- A switch that is written as its name, after the dashes. -/
def readNamed (progress : Progress) (written : Text) : Except Stop Progress :=
  match named? progress.command (Text.before '=' written) with
  | some switch => giveAttached progress switch (Text.beyond? '=' written)
  | none => .error .misuse

/-- Switches that are written as letters, after the dash.  What follows the letter of
a switch with a value is the value. -/
def readLetters (progress : Progress) : Text → Except Stop Progress
  | [] => .ok progress
  | letter :: rest =>
      match lettered? progress.command letter with
      | none => .error .misuse
      | some switch =>
          if switch.hasValue then
            giveAttached progress switch
              (if rest = [] then none else some ((Text.after? ['='] rest).getD rest))
          else do
            readLetters (← give progress switch) rest

/-- An argument that is no switch: the name of the command, or an operand of it. -/
def readOperand (progress : Progress) (argument : Text) : Except Stop Progress :=
  match progress.command with
  | some _ => .ok { progress with operands := progress.operands ++ [argument] }
  | none =>
      match CommandName.ofName? argument with
      | some command =>
          if progress.trailing then .error .misuse
          else .ok { progress with command := some command, given := [] }
      | none => .error .misuse

/-- An argument that is written like a switch. -/
def isDashed (argument : Text) : Bool :=
  Text.startsWith ['-'] argument && argument ≠ ['-']

/-- Take one argument. -/
def readArgument (progress : Progress) (argument : Text) : Except Stop Progress :=
  if progress.trailing then
    readOperand progress argument
  else
    match progress.pending with
    | some switch =>
        if isDashed argument then .error .misuse
        else giveValue { progress with pending := none } switch argument
    | none =>
        if argument = "--".toList then
          .ok { progress with trailing := true }
        else if isDashed argument then
          match Text.after? "--".toList argument with
          | some written => readNamed progress written
          | none => readLetters progress argument.tail
        else
          readOperand progress argument

/-- What arguments ask for once all of them are taken. -/
def finish (progress : Progress) : Except Stop Invocation := do
  if progress.pending.isSome then throw .misuse
  let has (switch : Switch) : Bool := progress.given.contains switch
  let operands := progress.operands
  let command ← match progress.command with
    | none => pure none
    | some .help =>
        throw (if operands.length ≤ 1 && operands.all fun name =>
          (CommandName.ofName? name).isSome then .help else .misuse)
    | some .build =>
        pure (some (.build ⟨operands, progress.output, has .recursive, has .statistics,
          has .canonical, progress.ceiling⟩))
    | some .compile =>
        if operands = [] then throw .misuse
        pure (some (.compile ⟨operands, progress.format, has .canonical⟩))
    | some .check =>
        if operands = [] then throw .misuse
        pure (some (.check ⟨operands, has .recursive⟩))
  return ⟨progress.settingsPath, progress.verbose, command⟩

/-- Read the arguments of a command line. -/
def read (arguments : List Text) : Except Stop Invocation := do
  finish (← arguments.foldlM readArgument .start)

end AtomicCss.CommandLine
