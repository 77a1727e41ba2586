import AtomicCss.Lexicon.Aliases
import AtomicCss.Lexicon.Blueprints
import AtomicCss.Lexicon.Characters
import AtomicCss.Lexicon.Functions
import AtomicCss.Lexicon.Marker
import AtomicCss.Lexicon.Template
import AtomicCss.Units

/-!
Contract: the tables that class names are read with.

Owns:
- the lexicon: abbreviations, characters, templates, functions and markers;
- the built-in lexicon and additions to it;
- looking up properties, also those with a number written after them.

Does not own: the contents of the built-in tables.
-/

namespace AtomicCss

/-- All tables of a grammar. -/
structure Lexicon where
  /-- Abbreviations, each with the properties that it stands for. -/
  aliases : OrderedMap Text (List Text)
  characters : OrderedMap Text Text
  templates : OrderedMap Text Template
  functions : OrderedMap Text CustomFunction
  markers : Registry

/-- Additions to a lexicon. -/
structure Overrides where
  aliases : OrderedMap Text (List Text)
  templates : OrderedMap Text Text
  characters : OrderedMap Text Text
deriving DecidableEq, Repr

/-- No additions. -/
def Overrides.none : Overrides :=
  ⟨.empty, .empty, .empty⟩

/-- There is nothing to add. -/
def Overrides.isEmpty (overrides : Overrides) : Bool :=
  overrides.aliases.isEmpty && overrides.templates.isEmpty && overrides.characters.isEmpty

namespace Lexicon

/-! ## Building -/

/-- The default markers and nothing else. -/
def empty : Lexicon :=
  ⟨.empty, .empty, .empty, .empty, .standard⟩

/-- The built-in tables. -/
def standard : Lexicon where
  aliases := OrderedMap.ofList Aliases.texts
  characters := OrderedMap.ofList Characters.texts
  templates := OrderedMap.ofList (Blueprints.texts.map fun entry => (entry.1, ⟨entry.2⟩))
  functions := OrderedMap.ofList CustomFunction.standard
  markers := Registry.standard

/-- Bind an abbreviation. -/
def addAlias (lexicon : Lexicon) (name : Text) (properties : List Text) : Lexicon :=
  { lexicon with aliases := lexicon.aliases.insert name properties }

/-- Bind the name of a character. -/
def addCharacter (lexicon : Lexicon) (name character : Text) : Lexicon :=
  { lexicon with characters := lexicon.characters.insert name character }

/-- Bind the name of a template. -/
def addTemplate (lexicon : Lexicon) (name blueprint : Text) : Lexicon :=
  { lexicon with templates := lexicon.templates.insert name ⟨blueprint⟩ }

/-- Bind a marker. -/
def register (lexicon : Lexicon) (marker : Text) (kind : MarkerKind) : Lexicon :=
  { lexicon with markers := lexicon.markers.register marker kind }

/-- Make all additions. -/
def apply (lexicon : Lexicon) (overrides : Overrides) : Lexicon :=
  { lexicon with
    aliases := lexicon.aliases.insertAll overrides.aliases.entries
    templates :=
      lexicon.templates.insertAll
        (overrides.templates.entries.map fun entry => (entry.1, ⟨entry.2⟩))
    characters := lexicon.characters.insertAll overrides.characters.entries }

/-! ## Looking up -/

/-- The properties of an abbreviation; any other token is a property itself. -/
def propertiesOf (lexicon : Lexicon) (token : Text) : List Text :=
  (lexicon.aliases.get? token).getD [token]

/-- The text of a named character; any other name stands for itself. -/
def characterFor (lexicon : Lexicon) (name : Text) : Text :=
  (lexicon.characters.get? name).getD name

/-- What follows a name at the front of a part, if that is a number. -/
def numericRest? (name part : Text) : Option Text :=
  (Text.after? name part).filter fun rest => !rest.isEmpty && Units.isNumeric rest

/-- The candidates for a name with a number after it: what each stands for, with
its name and what follows the name. -/
structure NumericMatch (α : Type) where
  name : Text
  meaning : α
  rest : Text
deriving DecidableEq, Repr

/-- The names of a table that a part starts with, followed by a number. -/
def numericMatches {α : Type} (table : List (Text × α)) (part : Text) :
    List (NumericMatch α) :=
  table.filterMap fun entry =>
    (numericRest? entry.1 part).map fun rest => ⟨entry.1, entry.2, rest⟩

/-- The longest name of a table that a part starts with, followed by a number.  A
part with more than one token has none. -/
def longestNumeric? {α : Type} (table : List (Text × α)) (part : Text) :
    Option (NumericMatch α) :=
  if part.contains Grammar.valueSeparator then
    none
  else
    longest? NumericMatch.name (numericMatches table part)

/-- The properties of the longest abbreviation that a part starts with, and the
number after it. -/
def aliasShorthand? (lexicon : Lexicon) (part : Text) : Option (List Text × Text) :=
  (longestNumeric? lexicon.aliases.entries part).map fun found =>
    (found.meaning, found.rest)

/-- The properties that are the only one of some abbreviation. -/
def soleProperties (lexicon : Lexicon) : List (Text × Unit) :=
  lexicon.aliases.values.filterMap fun properties =>
    match properties with
    | [property] => some (property, ())
    | _ => none

/-- The longest full property name that a part starts with, and the number after
it. -/
def propertyShorthand? (lexicon : Lexicon) (part : Text) : Option (Text × Text) :=
  (longestNumeric? lexicon.soleProperties part).map fun found =>
    (found.name, found.rest)

/-- The sizes of the tables in one line. -/
def summary (lexicon : Lexicon) : Text :=
  let field (name : String) (size : Nat) : Text := name.toList ++ Text.ofNat size
  "Lexicon \x7b ".toList ++
    List.intercalate ", ".toList
      [field "aliases: " lexicon.aliases.size,
       field "chars: " lexicon.characters.size,
       field "templates: " lexicon.templates.size,
       field "functions: " lexicon.functions.size,
       field "prefixes: " lexicon.markers.size] ++
    " \x7d".toList

end Lexicon

end AtomicCss
