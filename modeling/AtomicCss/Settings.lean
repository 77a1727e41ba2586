import AtomicCss.Document.Json
import AtomicCss.Document.Toml.Basic
import AtomicCss.Engine
import AtomicCss.Files.Host
import AtomicCss.Files.Inputs

/-!
Contract: the settings of a build.

Owns:
- the settings, and those of an empty file;
- what a document has to hold to be read as settings;
- loading a settings file, with the reasons for which that can fail;
- the options and the lexicon that settings ask for.

Does not own: which settings a command line replaces.
-/

namespace AtomicCss

/-- Additions to a lexicon as a document.  An abbreviation stands for one property or
for a list of them. -/
def Overrides.ofDocument? (surplus : Surplus) (document : Document) : Option Overrides := do
  let properties? (value : Document) : Option (List Text) :=
    (value.text?.map fun property => [property]).or (value.list? Document.text?)
  let [aliases, templates, characters] ←
    document.fields? surplus (["aliases", "templates", "chars"].map String.toList) 3 | none
  return {
    aliases := ← Document.orElse? .empty (Document.table? properties?) aliases
    templates := ← Document.orElse? .empty (Document.table? Document.text?) templates
    characters := ← Document.orElse? .empty (Document.table? Document.text?) characters }

/-- What a settings file can set. -/
structure Settings where
  inputs : Option (List Text)
  output : Option Text
  extensions : Option (List Text)
  recursive : Option Bool
  canonical : Option Bool
  ceiling : Option Nat
  viewportWidth : Option Nat
  viewportHeight : Option Nat
  overrides : Overrides
deriving DecidableEq, Repr

namespace Settings

/-- Nothing is set. -/
def empty : Settings :=
  ⟨none, none, none, none, none, none, none, none, .none⟩

/-- The names of the settings, in the order of their fields. -/
def fields : List Text :=
  ["inputs", "output", "extensions", "recursive", "canonical_order",
    "max_recursion_depth", "viewport_width", "viewport_height", "lexicon"].map String.toList

/-- Lengths in pixels are below this one. -/
def lengthLimit : Nat := Nat.pow 2 32

/-- The settings that a document holds.  Other entries do not count; a setting with a
value of another kind makes the document unreadable. -/
def ofDocument? (surplus : Surplus) (document : Document) : Option Settings := do
  let texts? (value : Document) : Option (List Text) := value.list? Document.text?
  let length? : Document → Option Nat := Document.natBelow? lengthLimit
  let [inputs, output, extensions, recursive, canonical, ceiling, width, height, lexicon] ←
    document.fields? surplus fields 1 | none
  return {
    inputs := ← Document.optional? texts? inputs
    output := ← Document.optional? Document.text? output
    extensions := ← Document.optional? texts? extensions
    recursive := ← Document.optional? Document.flag? recursive
    canonical := ← Document.optional? Document.flag? canonical
    ceiling := ← Document.optional? (Document.natBelow? wordLimit) ceiling
    viewportWidth := ← Document.optional? length? width
    viewportHeight := ← Document.optional? length? height
    overrides := ← Document.orElse? .none (Overrides.ofDocument? surplus) lexicon }

/-! ## Files -/

/-- A text ends with a given text. -/
def endsWith (ending text : Text) : Bool :=
  Text.startsWith ending.reverse text.reverse

/-- The settings in the text of a file.  The name of the file tells the notation. -/
def ofText (path text : Text) : Except Failure Settings :=
  let read (format : Text) (surplus : Surplus) (document : Option Document) :
      Except Failure Settings :=
    match document.bind (ofDocument? surplus) with
    | some settings => .ok settings
    | none =>
        .error (.invalidFormat ("Invalid ".toList ++ format ++
          " config: the file holds no settings".toList))
  if endsWith ".json".toList path then
    read "JSON".toList Json.surplus (Json.read? text)
  else if endsWith ".toml".toList path then
    read "TOML".toList Toml.surplus (Toml.read? text)
  else
    .error (.invalidFormat "Config file must be .json or .toml format".toList)

/-- Settings that make sense.  No expansion can do without a first level. -/
def check (settings : Settings) : Except Failure Settings :=
  if settings.ceiling = some 0 then
    .error (.settings "max_recursion_depth must be at least 1".toList)
  else
    .ok settings

/-- Load the settings of a file. -/
def load {m : Type → Type} [Monad m] (host : Host m) (path : Text) :
    m (Except Failure Settings) := do
  match ← host.read path with
  | .error fault =>
      return .error (.fileNotFound ("Config file ".toList ++ path ++ ": ".toList ++
        fault.message))
  | .ok text => return (ofText path text).bind check

/-! ## What settings ask for -/

/-- The size of the viewport, when both sides are set. -/
def viewport (settings : Settings) : Option (Nat × Nat) := do
  return (← settings.viewportWidth, ← settings.viewportHeight)

/-- The extensions of input files. -/
def inputExtensions (settings : Settings) : List Text :=
  settings.extensions.getD Inputs.standardExtensions

/-- The built-in lexicon with the additions of the settings. -/
def lexicon (settings : Settings) : Lexicon :=
  Lexicon.standard.apply settings.overrides

end Settings

end AtomicCss
