import AtomicCss.ClassName.Contribution
import AtomicCss.OrderedMap

/-!
Contract: the rules that a stylesheet is written from.

Owns:
- the collections of a stylesheet, each in the order of first insertion;
- putting a contribution into them;
- the numbers that are reported of them.

Does not own: the order in which a stylesheet shows them.
-/

namespace AtomicCss

/-- The declarations under one selector. -/
structure Rule where
  declarations : List Text
  important : Bool
deriving DecidableEq, Repr

/-- Rules by selector. -/
abbrev RuleMap := OrderedMap Text Rule

/-- Everything that a stylesheet is written from. -/
structure Store where
  root : OrderedSet RootDeclaration
  fontFaces : OrderedSet Text
  /-- The CSS of animations by name. -/
  keyframes : OrderedMap Text Text
  /-- The rules outside at-rules. -/
  base : RuleMap
  /-- The rules inside each at-rule. -/
  groups : OrderedMap Text RuleMap
deriving DecidableEq, Repr

namespace Store

/-- The store without contents. -/
def empty : Store :=
  ⟨.empty, .empty, .empty, .empty, .empty⟩

/-! ## Insertion -/

/-- Put an animation in; a later one of the same name replaces it. -/
def insertKeyframes (store : Store) (keyframes : Option Keyframes) : Store :=
  match keyframes with
  | some keyframes =>
      { store with keyframes := store.keyframes.insert keyframes.name keyframes.write }
  | none => store

/-- Put a font face in. -/
def insertFontFace (store : Store) (fontFace : Option Text) : Store :=
  match fontFace with
  | some fontFace => { store with fontFaces := store.fontFaces.insert fontFace }
  | none => store

/-- Put a rule in, outside at-rules or into the group of one. -/
def insertRule (store : Store) (atRule : Option Text) (selector : Text) (rule : Rule) :
    Store :=
  match atRule with
  | some atRule =>
      { store with
        groups := store.groups.alter atRule fun group =>
          (group.getD .empty).insert selector rule }
  | none => { store with base := store.base.insert selector rule }

/-- Put a contribution in.  Without declarations it has no rule. -/
def insert (store : Store) (contribution : Contribution) : Store :=
  let collected :=
    ({ store with root := store.root.insertAll contribution.rootRules }
      |>.insertKeyframes contribution.keyframes
      |>.insertFontFace contribution.fontFace)
  if contribution.declarations = [] then
    collected
  else
    collected.insertRule contribution.atRule contribution.selector
      ⟨contribution.declarations, contribution.important⟩

/-- Put contributions in one after the other. -/
def insertAll (store : Store) (contributions : List Contribution) : Store :=
  contributions.foldl insert store

/-! ## Numbers -/

/-- The number of rules, inside at-rules and outside. -/
def ruleCount (store : Store) : Nat :=
  store.groups.values.foldr (fun rules count => rules.size + count) store.base.size

/-- There is nothing in any collection. -/
def isEmpty (store : Store) : Bool :=
  store.root.isEmpty && store.fontFaces.isEmpty && store.keyframes.isEmpty &&
    store.base.isEmpty && store.groups.isEmpty

/-- The custom properties of the root element, of which the later value counts. -/
def rootVariables (store : Store) : OrderedMap Text Text :=
  OrderedMap.ofList
    (store.root.members.map fun root => ("--".toList ++ root.name, root.value))

end Store

end AtomicCss
