import AtomicCss.Proofs.OrderedMap
import AtomicCss.Proofs.Rules.AtRuleOrder
import AtomicCss.Proofs.Text.Splitting
import AtomicCss.Stylesheet
import Mathlib.Data.List.Perm.Basic

/-!
Contract: a stylesheet has one block for everything that its store holds, and the rules inside
an at-rule are written as outside, further to the right.

Owns:
- spaces in front of every line, and taking them away again;
- the sections of a stylesheet, with what each block is written from;
- sections that hold what a store holds;
- the main statement: every stylesheet is the text of such sections.

Does not own: the canonical order inside a section.

## What could be lost

Rules inside an at-rule are put together to one text, which is cut into lines again to indent it.
A carriage return in front of a line feed would not survive that, and an at-rule without rules
has no block.  A store without either is indentable.
-/

namespace AtomicCss.Stylesheet

universe u

/-! ## Indentation -/

/-- A text with two spaces in front of every line, where a line is what stands between line
feeds. -/
def shifted (text : Text) : Text :=
  Text.join '\n' ((Text.split '\n' text).map fun line => "  ".toList ++ line)

/-- A text without the first two characters of every line. -/
def outdent (text : Text) : Text :=
  Text.join '\n' ((Text.split '\n' text).map (List.drop 2))

theorem outdent_shifted (text : Text) : outdent (shifted text) = text := by
  let pieces := (Text.split '\n' text).map fun line => "  ".toList ++ line
  have written : pieces ≠ [] := by simp [pieces, Text.split_ne_nil]
  have oneLine : ∀ piece ∈ pieces, '\n' ∉ piece := by
    intro piece member
    obtain ⟨line, inside, rfl⟩ := List.mem_map.1 member
    have absent := Text.not_mem_of_mem_split inside
    simpa using absent
  have back : pieces.map (List.drop 2) = Text.split '\n' text := by
    rw [List.map_map]
    exact List.map_id _
  rw [outdent, shifted, Text.split_join written oneLine, back, Text.join_split]

/-- The text of rules, one below the other. -/
def rulesText (rules : List (Text × Rule)) : Text :=
  Text.join '\n' (rules.map fun entry => ruleText entry.1 entry.2)

/-- A rule ends with its closing brace, and so do rules. -/
theorem rulesText_concat (rules : List (Text × Rule)) (last : Text × Rule) :
    ∃ front, rulesText (rules ++ [last]) = front ++ ['\x7d'] := by
  let opened := last.1 ++ " \x7b\n".toList ++
    last.2.declarations.flatMap (declarationLine last.2.important)
  have closed : ruleText last.1 last.2 = opened ++ ['\x7d'] := rfl
  by_cases alone : rules = []
  · subst alone
    exact ⟨opened, by simp [rulesText, Text.join, closed]⟩
  · have written : (rules.map fun entry => ruleText entry.1 entry.2) ≠ [] := by simpa using alone
    refine ⟨rulesText rules ++ '\n' :: opened, ?_⟩
    rw [rulesText, List.map_append, Text.join_append written (by simp)]
    simp [rulesText, Text.join, closed]

/-- No carriage return stands in the selector or in a declaration. -/
def NoReturn (entry : Text × Rule) : Prop :=
  '\r' ∉ entry.1 ∧ ∀ declaration ∈ entry.2.declarations, '\r' ∉ declaration

theorem return_not_mem_ruleText {entry : Text × Rule} (noReturn : NoReturn entry) :
    '\r' ∉ ruleText entry.1 entry.2 := by
  have mark (important : Bool) :
      '\r' ∉ (if important then Grammar.importantMark else [] : Text) := by
    cases important <;> decide
  have indent : '\r' ∉ "  ".toList := by decide
  have ended : '\r' ∉ ";\n".toList := by decide
  have opened : '\r' ∉ " \x7b\n".toList := by decide
  have closed : '\r' ∉ ['\x7d'] := by decide
  simp only [ruleText, declarationLine, List.mem_append, List.mem_flatMap, not_or, not_exists,
    not_and]
  exact ⟨⟨⟨noReturn.1, opened⟩, fun declaration member =>
    ⟨⟨⟨indent, noReturn.2 declaration member⟩, mark _⟩, ended⟩⟩, closed⟩

/-- Indenting rules puts spaces in front of their lines and does nothing else. -/
theorem indent_rulesText
    {rules : List (Text × Rule)}
    (filled : rules ≠ [])
    (noReturn : ∀ entry ∈ rules, NoReturn entry) :
    indent (rulesText rules) = shifted (rulesText rules) := by
  have absent : '\r' ∉ rulesText rules := by
    rw [rulesText, Text.mem_join_iff (by decide)]
    rintro ⟨piece, member, inside⟩
    obtain ⟨entry, among, rfl⟩ := List.mem_map.1 member
    exact return_not_mem_ruleText (noReturn entry among) inside
  obtain ⟨earlier, last, rfl⟩ : ∃ earlier last, rules = earlier ++ [last] :=
    ⟨_, _, (List.dropLast_concat_getLast filled).symm⟩
  obtain ⟨front, ends⟩ := rulesText_concat earlier last
  rw [ends] at absent ⊢
  rw [indent, Text.lines_eq_split absent (by decide)]
  rfl

/-! ## Sections -/

/-- What the blocks of a stylesheet are written from, in their order. -/
structure Sections where
  root : List RootDeclaration
  fontFaces : List Text
  /-- The CSS of animations by name. -/
  keyframes : List (Text × Text)
  base : List (Text × Rule)
  /-- At-rules, each with the rules inside it. -/
  groups : List (Text × List (Text × Rule))

namespace Sections

/-- The block of an at-rule. -/
def groupBlock (group : Text × List (Text × Rule)) : Text :=
  group.1 ++ " \x7b\n".toList ++ shifted (rulesText group.2) ++ "\n\x7d".toList

/-- The blocks, section after section. -/
def blocks (sections : Sections) : List Text :=
  sections.root.map RootDeclaration.write ++ sections.fontFaces ++
    sections.keyframes.map Prod.snd ++
    sections.base.map (fun entry => ruleText entry.1 entry.2) ++
    sections.groups.map groupBlock

end Sections

/-- What is shown is what is given, each once.  Unless the order is canonical it is the order in
which it was given. -/
def Arranged {α : Type u} (canonical : Bool) (given shown : List α) : Prop :=
  shown.Perm given ∧ (canonical = false → shown = given)

/-- The sections show what the store holds, each thing in its section and once, the at-rules in
their order. -/
structure Sections.Show (sections : Sections) (canonical : Bool) (store : Store) : Prop where
  root : Arranged canonical store.root.members sections.root
  fontFaces : Arranged canonical store.fontFaces.members sections.fontFaces
  keyframes : Arranged canonical store.keyframes.entries sections.keyframes
  base : Arranged canonical store.base.entries sections.base
  atRules : (sections.groups.map Prod.fst).Perm store.groups.keys
  sorted :
    (sections.groups.map Prod.fst).Pairwise fun earlier later =>
      (AtRule.order earlier later).isLE = true
  rules :
    ∀ group ∈ sections.groups, ∃ rules,
      store.groups.get? group.1 = some rules ∧ Arranged canonical rules.entries group.2

/-! ### One section -/

section Arranged

variable (canonical : Bool)

theorem arranged_orderedTexts (texts : List Text) :
    Arranged canonical texts (orderedTexts canonical texts) := by
  cases canonical with
  | true => exact ⟨List.mergeSort_perm texts _, fun never => nomatch never⟩
  | false => exact ⟨List.Perm.refl texts, fun _ => rfl⟩

theorem arranged_orderedRules (rules : RuleMap) :
    Arranged canonical rules.entries (orderedRules canonical rules) := by
  cases canonical with
  | true => exact ⟨List.mergeSort_perm rules.entries _, fun never => nomatch never⟩
  | false => exact ⟨List.Perm.refl rules.entries, fun _ => rfl⟩

/-- Texts in order are the texts of things in some order. -/
theorem exists_arranged {α : Type u} (write : α → Text) (given : List α) :
    ∃ shown, Arranged canonical given shown ∧
      shown.map write = orderedTexts canonical (given.map write) := by
  cases canonical with
  | false => exact ⟨given, ⟨List.Perm.refl given, fun _ => rfl⟩, rfl⟩
  | true =>
      have same := (arranged_orderedTexts true (given.map write)).1
      obtain ⟨shown, texts, among⟩ :=
        (congrFun₂ (List.eq_map_comp_perm write) _ _).mpr same
      exact ⟨shown, ⟨among, fun never => nomatch never⟩, texts.symm⟩

end Arranged

/-! ### At-rules -/

theorem get?_of_mem_orderedGroups
    {store : Store}
    {group : Text × RuleMap}
    (member : group ∈ orderedGroups store) :
    store.groups.get? group.1 = some group.2 := by
  obtain ⟨atRule, _, found⟩ := List.mem_filterMap.1 member
  obtain ⟨rules, bound, chosen⟩ := Option.bind_eq_some_iff.1 found
  split at chosen
  · cases chosen
  · cases chosen
    exact bound

/-- When every group has rules, every at-rule is shown. -/
theorem map_fst_orderedGroups
    {store : Store}
    (filled : ∀ group ∈ store.groups.entries, group.2.isEmpty = false) :
    (orderedGroups store).map Prod.fst = AtRule.sort store.groups.keys := by
  have each : ∀ atRule ∈ AtRule.sort store.groups.keys,
      (((store.groups.get? atRule).bind fun rules =>
        if rules.isEmpty then none else some (atRule, rules)).map Prod.fst) = some atRule := by
    intro atRule member
    obtain ⟨rules, bound⟩ := OrderedMap.mem_keys_iff.1 (List.mem_mergeSort.1 member)
    rw [OrderedMap.get?_eq_some_iff.2 bound, Option.bind_some, filled _ bound]
    rfl
  rw [orderedGroups, List.map_filterMap, List.filterMap_congr each, List.filterMap_some]

/-! ## Stylesheets -/

/-- Every at-rule has rules, and none of them has a carriage return in it. -/
structure Indentable (store : Store) : Prop where
  filled : ∀ group ∈ store.groups.entries, group.2.isEmpty = false
  noReturn : ∀ group ∈ store.groups.entries, ∀ entry ∈ group.2.entries, NoReturn entry

/-- The store of rules outside at-rules. -/
def ungrouped (rules : RuleMap) : Store :=
  { Store.empty with base := rules }

theorem blocks_ungrouped (canonical : Bool) (rules : RuleMap) :
    blocks canonical (ungrouped rules) =
      (orderedRules canonical rules).map fun entry => ruleText entry.1 entry.2 := by
  have none : orderedTexts canonical [] = [] := by simp [orderedTexts]
  simp [blocks, ungrouped, Store.empty, OrderedSet.empty, OrderedMap.empty, OrderedMap.values,
    orderedGroups, OrderedMap.keys, AtRule.sort, none]

theorem groupText_eq_groupBlock
    {store : Store}
    (indentable : Indentable store)
    (canonical : Bool)
    {group : Text × RuleMap}
    (member : group ∈ orderedGroups store) :
    groupText group.1 (orderedRules canonical group.2) =
      Sections.groupBlock (group.1, orderedRules canonical group.2) := by
  have bound := OrderedMap.get?_eq_some_iff.1 (get?_of_mem_orderedGroups member)
  have same := (arranged_orderedRules canonical group.2).1
  have filled : orderedRules canonical group.2 ≠ [] := by
    intro none
    rw [none] at same
    have empty : group.2.isEmpty = true := by
      rw [OrderedMap.isEmpty, same.symm.eq_nil]
      rfl
    rw [indentable.filled _ bound] at empty
    cases empty
  have noReturn : ∀ entry ∈ orderedRules canonical group.2, NoReturn entry :=
    fun entry among => indentable.noReturn _ bound entry (same.mem_iff.1 among)
  have body := indent_rulesText filled noReturn
  unfold rulesText at body
  simp only [groupText, Sections.groupBlock, rulesText, body]

/-- A stylesheet is the blocks of sections that show its store, a blank line between them.  The
rules inside an at-rule become, without the indentation, the blocks that they are outside. -/
theorem write_in_sections
    {store : Store}
    (indentable : Indentable store)
    (canonical : Bool) :
    ∃ sections : Sections,
      sections.Show canonical store ∧
      write canonical store = List.intercalate "\n\n".toList sections.blocks ∧
      ∀ group ∈ sections.groups, ∃ rules,
        store.groups.get? group.1 = some rules ∧
        outdent (shifted (rulesText group.2)) =
          Text.join '\n' (blocks canonical (ungrouped rules)) := by
  obtain ⟨root, rootShown, rootTexts⟩ :=
    exists_arranged canonical RootDeclaration.write store.root.members
  obtain ⟨keyframes, keyframesShown, keyframesTexts⟩ :=
    exists_arranged canonical Prod.snd store.keyframes.entries
  let sections : Sections :=
    { root := root
      fontFaces := orderedTexts canonical store.fontFaces.members
      keyframes := keyframes
      base := orderedRules canonical store.base
      groups := (orderedGroups store).map fun group =>
        (group.1, orderedRules canonical group.2) }
  have atRules : sections.groups.map Prod.fst = AtRule.sort store.groups.keys := by
    rw [← map_fst_orderedGroups indentable.filled, List.map_map]
    rfl
  have groups : ∀ group ∈ sections.groups, ∃ rules,
      store.groups.get? group.1 = some rules ∧ group.2 = orderedRules canonical rules := by
    intro group member
    obtain ⟨entry, among, rfl⟩ := List.mem_map.1 member
    exact ⟨entry.2, get?_of_mem_orderedGroups among, rfl⟩
  refine ⟨sections, ?_, ?_, ?_⟩
  · refine ⟨rootShown, arranged_orderedTexts canonical _, keyframesShown,
      arranged_orderedRules canonical _, ?_, ?_, ?_⟩
    · rw [atRules]
      exact List.mergeSort_perm store.groups.keys _
    · rw [atRules]
      exact AtRule.pairwise_sort store.groups.keys
    · intro group member
      obtain ⟨rules, bound, shown⟩ := groups group member
      rw [shown]
      exact ⟨rules, bound, arranged_orderedRules canonical rules⟩
  · have blocks : sections.blocks = blocks canonical store := by
      have grouped : sections.groups.map Sections.groupBlock =
          (orderedGroups store).map fun group =>
            groupText group.1 (orderedRules canonical group.2) := by
        rw [List.map_map]
        exact (List.map_congr_left fun group member =>
          groupText_eq_groupBlock indentable canonical member).symm
      rw [Sections.blocks, Stylesheet.blocks, rootTexts, keyframesTexts, grouped]
      rfl
    rw [write, blocks]
  · intro group member
    obtain ⟨rules, bound, shown⟩ := groups group member
    refine ⟨rules, bound, ?_⟩
    rw [outdent_shifted, shown, blocks_ungrouped, rulesText]

/-- Two at-rules, one of which has two rules, beside a rule and a declaration on the root
element. -/
theorem write_in_sections_print :
    let dark : Rule := ⟨["color: black".toList, "margin: 0".toList], true⟩
    let light : Rule := ⟨["color: white".toList], false⟩
    let store : Store :=
      ⟨.ofList [⟨"x".toList, "1".toList, "a".toList⟩], .empty, .empty,
        .ofList [(".a".toList, light)],
        .ofList [("@container card".toList, .ofList [(".c".toList, dark)]),
          ("@media print".toList, .ofList [(".b".toList, dark), (".a".toList, light)])]⟩
    Indentable store ∧
      ∃ sections : Sections,
        sections.Show true store ∧
        write true store = List.intercalate "\n\n".toList sections.blocks := by
  intro dark light store
  have indentable : Indentable store := by
    refine ⟨by decide, ?_⟩
    unfold NoReturn
    decide
  obtain ⟨sections, shows, text, _⟩ := write_in_sections indentable true
  exact ⟨indentable, sections, shows, text⟩

end AtomicCss.Stylesheet
