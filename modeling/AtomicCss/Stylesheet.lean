import AtomicCss.Rules.AtRuleOrder
import AtomicCss.Rules.Store

/-!
Contract: the text of a stylesheet.

Owns:
- the CSS of a rule and of a group of rules;
- the sections of a stylesheet and their order;
- the canonical order, which does not depend on the order of insertion.

Does not own: what the rules are.
-/

namespace AtomicCss.Stylesheet

/-! ## Blocks -/

/-- A declaration on a line of its own. -/
def declarationLine (important : Bool) (declaration : Text) : Text :=
  "  ".toList ++ declaration ++ (if important then Grammar.importantMark else []) ++
    ";\n".toList

/-- A rule in CSS. -/
def ruleText (selector : Text) (rule : Rule) : Text :=
  selector ++ " \x7b\n".toList ++
    rule.declarations.flatMap (declarationLine rule.important) ++ ['\x7d']

/-- A text with two spaces in front of every line. -/
def indent (text : Text) : Text :=
  Text.join '\n' ((Text.lines text).map fun line => ' ' :: ' ' :: line)

/-- Rules inside an at-rule in CSS. -/
def groupText (atRule : Text) (rules : List (Text × Rule)) : Text :=
  let body := Text.join '\n' (rules.map fun entry => ruleText entry.1 entry.2)
  atRule ++ " \x7b\n".toList ++ indent body ++ "\n\x7d".toList

/-! ## Sections -/

/-- Texts as they stand, or sorted. -/
def orderedTexts (canonical : Bool) (texts : List Text) : List Text :=
  if canonical then
    texts.mergeSort fun first second => (compare first second).isLE
  else
    texts

/-- Rules as they stand, or sorted by selector. -/
def orderedRules (canonical : Bool) (rules : RuleMap) : List (Text × Rule) :=
  if canonical then
    rules.entries.mergeSort fun first second => (compare first.1 second.1).isLE
  else
    rules.entries

/-- The groups that have rules, in the order of their at-rules. -/
def orderedGroups (store : Store) : List (Text × RuleMap) :=
  (AtRule.sort store.groups.keys).filterMap fun atRule =>
    (store.groups.get? atRule).bind fun rules =>
      if rules.isEmpty then none else some (atRule, rules)

/-- The blocks of a stylesheet: the root element, font faces, animations, rules,
and at-rules with their rules. -/
def blocks (canonical : Bool) (store : Store) : List Text :=
  orderedTexts canonical (store.root.members.map RootDeclaration.write) ++
    orderedTexts canonical store.fontFaces.members ++
    orderedTexts canonical store.keyframes.values ++
    (orderedRules canonical store.base).map (fun entry => ruleText entry.1 entry.2) ++
    (orderedGroups store).map fun group =>
      groupText group.1 (orderedRules canonical group.2)

/-- The text of a stylesheet, a blank line between its blocks.  The canonical text
depends on the contents of the store only. -/
def write (canonical : Bool) (store : Store) : Text :=
  List.intercalate "\n\n".toList (blocks canonical store)

/-- A stylesheet in the style element that a page holds it in. -/
def styleElement (css : Text) : Text :=
  "<style id=\"".toList ++ Grammar.styleElementId ++ "\">\n".toList ++ css ++
    "\n</style>".toList

end AtomicCss.Stylesheet
