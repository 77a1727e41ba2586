import AtomicCss.ClassName.Reading
import AtomicCss.Document.Json
import AtomicCss.Outline
import AtomicCss.Source

/-!
Contract: what commands show.

Owns:
- the report of a command: what it shows, what it gives notice of, how it fails;
- the lines that describe a build and a check;
- a stylesheet in every output format.

Does not own: when a command shows what.
-/

namespace AtomicCss.CommandLine

/-! ## Reports -/

/-- What came of a command. -/
structure Report where
  /-- The lines that are shown. -/
  shown : List Text
  notices : List Notice
  failure : Option Failure
deriving DecidableEq, Repr

namespace Report

/-- A command that showed some lines and was done. -/
def done (shown : List Text) (notices : List Notice) : Report :=
  ⟨shown, notices, none⟩

/-- A command that showed some lines and failed. -/
def failed (shown : List Text) (notices : List Notice) (failure : Failure) : Report :=
  ⟨shown, notices, some failure⟩

end Report

/-! ## Lines -/

/-- A line that tells a number. -/
def numberLine (label : String) (number : Nat) (unit : String) : Text :=
  "   ".toList ++ label.toList ++ ": ".toList ++ Text.ofNat number ++ unit.toList

/-- The line that announces a build. -/
def announcement (inputs : List Text) (output : Text) : Text :=
  "🔨 Building ".toList ++ List.intercalate ", ".toList inputs ++ " -> ".toList ++ output

/-- The lines that tell that a build succeeded. -/
def buildLines (statistics : Statistics) (elapsed : Nat) : List Text :=
  ["✅ Build successful!".toList,
    numberLine "Rules" statistics.rules "",
    numberLine "Output" statistics.output " bytes",
    numberLine "Time" elapsed "ms"] ++
    if 0 < statistics.blocked then
      ["⚠️  ".toList ++ Text.ofNat statistics.blocked ++
        " inputs could not be read".toList]
    else
      []

/-- The line that tells the sizes of the tables of a lexicon. -/
def lexiconLine (lexicon : Lexicon) : Text :=
  "   Lexicon: ".toList ++ Text.ofNat lexicon.aliases.size ++ " aliases, ".toList ++
    Text.ofNat lexicon.templates.size ++ " templates".toList

/-- The line that tells why a source is blocked. -/
def blockedLine (blocked : BlockedSource) : Text :=
  "   Blocked: ".toList ++ blocked.source ++ " (".toList ++ blocked.reason ++ [')']

/-- The lines that describe a build in detail. -/
def statisticsLines (statistics : Statistics) (engine : Engine) : List Text :=
  [[], "📊 Detailed Statistics:".toList,
    numberLine "Sources scanned" statistics.sources "",
    numberLine "Classes found" statistics.classes "",
    numberLine "Classes with CSS" statistics.generated "",
    numberLine "Failed classes" statistics.failed "",
    numberLine "Root variables" engine.store.rootVariables.size "",
    numberLine "Keyframes" engine.store.keyframes.size "",
    numberLine "Font faces" engine.store.fontFaces.size "",
    numberLine "At-rule groups" engine.store.groups.size "",
    lexiconLine engine.environment.lexicon] ++
    engine.blockedSources.map blockedLine

/-- The numbers that describe a check. -/
structure CheckCounts where
  classes : Nat
  /-- The class names without output. -/
  empty : Nat
  /-- The class names and the files that could not be read. -/
  errors : Nat
deriving DecidableEq, Repr

/-- The lines that end a check. -/
def checkLines (files : Nat) (counts : CheckCounts) : List Text :=
  [[], "📊 Check Summary:".toList,
    numberLine "Files" files "",
    numberLine "Classes" counts.classes "",
    numberLine "Without CSS" counts.empty "",
    numberLine "Errors" counts.errors ""]

/-! ## Documents -/

/-- Texts as a document. -/
def textsDocument (texts : List Text) : Document :=
  .list (texts.map .text)

/-- A table of documents by the keys of a map. -/
def mapDocument {α : Type} (document : α → Document) (map : OrderedMap Text α) : Document :=
  .table (map.entries.map fun entry => (entry.1, document entry.2))

/-- A table with the given names. -/
def recordDocument (fields : List (String × Document)) : Document :=
  .table (fields.map fun field => (field.1.toList, field.2))

/-- A rule. -/
def ruleDocument (rule : Rule) : Document :=
  recordDocument
    [("declarations", textsDocument rule.declarations), ("important", .flag rule.important)]

/-- A declaration on the root element. -/
def rootDocument (root : RootDeclaration) : Document :=
  recordDocument
    [("name", .text root.name), ("value", .text root.value),
     ("class_name", .text root.className)]

/-- A store. -/
def storeDocument (store : Store) : Document :=
  recordDocument
    [("root", .list (store.root.members.map rootDocument)),
     ("font_faces", textsDocument store.fontFaces.members),
     ("keyframes", mapDocument .text store.keyframes),
     ("base", mapDocument ruleDocument store.base),
     ("at_rules", mapDocument (mapDocument ruleDocument) store.groups)]

/-- Everything that an engine holds after a rebuild. -/
def engineDocument (engine : Engine) : Document :=
  recordDocument
    [("stylesheet", .text engine.stylesheet),
     ("rules", storeDocument engine.store),
     ("root_variables", mapDocument .text engine.store.rootVariables),
     ("failed", .integer engine.failed)]

/-! ## Class names one by one -/

/-- What a class name contributes, in full, with the notices that reading it gave. -/
def classOutline (environment : Environment) (ceiling : Nat) (className : Text) :
    Text × List Notice :=
  match ClassName.read environment ceiling className with
  | .error fault => ((Failure.parse className fault).message, [])
  | .ok outcome =>
      match outcome.contribution with
      | some contribution =>
          ((Outline.ofContribution contribution).write, outcome.notices)
      | none => (className ++ ": no CSS".toList, outcome.notices)

end AtomicCss.CommandLine
