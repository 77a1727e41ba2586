import AtomicCss.Proofs.OrderedMap
import AtomicCss.Proofs.Rules.AtRuleOrder
import AtomicCss.Stylesheet

/-!
Contract: the canonical text of a stylesheet shows what a store holds, not the order in
which it was put there.

Owns:
- stores with the same contents, and stores with the same contents apart from animations;
- the canonical order of each section, which such stores share;
- the canonical texts of two such stores, which differ in their animations if at all;
- the main statement: stores with the same contents have the same canonical text.

Does not own: what puts contents into a store.
-/

namespace AtomicCss

/-! ## Contents -/

/-- Two stores hold the same root declarations, font faces and rules, in whatever order. -/
structure Store.SameRules (store other : Store) : Prop where
  root : store.root.members.Perm other.root.members
  fontFaces : store.fontFaces.members.Perm other.fontFaces.members
  base : ∀ selector, store.base.get? selector = other.base.get? selector
  groups :
    ∀ atRule,
      Option.Rel (fun rules others : RuleMap =>
          ∀ selector, rules.get? selector = others.get? selector)
        (store.groups.get? atRule) (other.groups.get? atRule)

/-- Two stores hold the same as finite sets and maps, in whatever order. -/
structure Store.SameContents (store other : Store) : Prop where
  root : ∀ root, root ∈ store.root.members ↔ root ∈ other.root.members
  fontFaces :
    ∀ fontFace, fontFace ∈ store.fontFaces.members ↔ fontFace ∈ other.fontFaces.members
  keyframes : ∀ name, store.keyframes.get? name = other.keyframes.get? name
  base : ∀ selector, store.base.get? selector = other.base.get? selector
  groups :
    ∀ atRule,
      Option.Rel (fun rules others : RuleMap =>
          ∀ selector, rules.get? selector = others.get? selector)
        (store.groups.get? atRule) (other.groups.get? atRule)

theorem Store.SameContents.sameRules {store other : Store} (same : store.SameContents other) :
    store.SameRules other where
  root := (List.perm_ext_iff_of_nodup store.root.distinct other.root.distinct).2 same.root
  fontFaces :=
    (List.perm_ext_iff_of_nodup store.fontFaces.distinct other.fontFaces.distinct).2
      same.fontFaces
  base := same.base
  groups := same.groups

namespace Stylesheet

/-! ## Sections -/

theorem orderedTexts_eq_of_perm {first second : List Text} (same : first.Perm second) :
    orderedTexts true first = orderedTexts true second :=
  mergeSort_eq_of_perm (compare : Text → Text → Ordering)
    (fun _ _ _ _ => Std.LawfulEqCmp.eq_of_compare) same

/-- Rules are told apart by their selectors, of which a map binds each once. -/
theorem orderedRules_eq
    {rules others : RuleMap}
    (same : ∀ selector, rules.get? selector = others.get? selector) :
    orderedRules true rules = orderedRules true others := by
  refine mergeSort_eq_of_perm (compareOn Prod.fst) ?_ (OrderedMap.perm_entries_of_get? same)
  rintro ⟨selector, rule⟩ left ⟨selector', rule'⟩ right equal
  have keys : compare selector selector' = .eq := equal
  obtain rfl := Std.LawfulEqCmp.eq_of_compare keys
  rw [← OrderedMap.get?_eq_some_iff] at left right
  rw [same, right] at left
  rw [Option.some.inj left]

/-- The text of an at-rule with its rules in canonical order, unless it has none. -/
def canonicalGroup? (store : Store) (atRule : Text) : Option Text :=
  (store.groups.get? atRule).bind fun rules =>
    if rules.isEmpty then none else some (groupText atRule (orderedRules true rules))

theorem canonicalGroups_eq (store : Store) :
    ((orderedGroups store).map fun group => groupText group.1 (orderedRules true group.2)) =
      (AtRule.sort store.groups.keys).filterMap (canonicalGroup? store) := by
  rw [orderedGroups, List.map_filterMap]
  congr 1
  funext atRule
  unfold canonicalGroup?
  cases store.groups.get? atRule with
  | none => rfl
  | some rules => cases empty : rules.isEmpty <;> simp [empty]

section SameRules

variable {store other : Store} (same : store.SameRules other)

include same

theorem canonicalGroup?_eq (atRule : Text) :
    canonicalGroup? store atRule = canonicalGroup? other atRule := by
  have groups := same.groups atRule
  unfold canonicalGroup?
  generalize store.groups.get? atRule = group at groups
  generalize other.groups.get? atRule = group' at groups
  cases groups with
  | none => rfl
  | some rules =>
      rw [Option.bind_some, Option.bind_some, orderedRules_eq rules, OrderedMap.isEmpty,
        OrderedMap.isEmpty, (OrderedMap.perm_entries_of_get? rules).isEmpty_eq]

theorem atRules_perm : store.groups.keys.Perm other.groups.keys := by
  refine (List.perm_ext_iff_of_nodup store.groups.distinct other.groups.distinct).2 ?_
  intro atRule
  have bound : store.groups.get? atRule = none ↔ other.groups.get? atRule = none := by
    have groups := same.groups atRule
    generalize store.groups.get? atRule = group at groups
    generalize other.groups.get? atRule = group' at groups
    cases groups <;> simp
  rw [OrderedMap.get?_eq_none_iff, OrderedMap.get?_eq_none_iff] at bound
  exact not_iff_not.1 bound

/-! ## Stylesheets -/

/-- The blocks before the animations are the same. -/
theorem blocksBefore_eq :
    orderedTexts true (store.root.members.map RootDeclaration.write) ++
        orderedTexts true store.fontFaces.members =
      orderedTexts true (other.root.members.map RootDeclaration.write) ++
        orderedTexts true other.fontFaces.members := by
  rw [orderedTexts_eq_of_perm (same.root.map _), orderedTexts_eq_of_perm same.fontFaces]

/-- The blocks after the animations are the same. -/
theorem blocksAfter_eq :
    ((orderedRules true store.base).map fun entry => ruleText entry.1 entry.2) ++
        ((orderedGroups store).map fun group =>
          groupText group.1 (orderedRules true group.2)) =
      ((orderedRules true other.base).map fun entry => ruleText entry.1 entry.2) ++
        ((orderedGroups other).map fun group =>
          groupText group.1 (orderedRules true group.2)) := by
  rw [orderedRules_eq same.base, canonicalGroups_eq, canonicalGroups_eq,
    AtRule.sort_eq_of_perm (atRules_perm same), funext (canonicalGroup?_eq same)]

end SameRules

/-- The animations of a store in canonical order, a blank line between them. -/
def animationText (keyframes : OrderedMap Text Text) : Text :=
  List.intercalate "\n\n".toList (orderedTexts true keyframes.values)

/-- A part of a sequence of blocks stands between what comes from those before it and what
comes from those after it. -/
theorem intercalate_middle
    (separator : Text)
    (before after : List Text)
    {middle : List Text}
    (written : middle ≠ []) :
    List.intercalate separator (before ++ middle ++ after) =
      before.flatMap (fun block => block ++ separator) ++
        List.intercalate separator middle ++
          after.flatMap fun block => separator ++ block := by
  induction before with
  | nil =>
      obtain ⟨first, others, rfl⟩ := List.exists_cons_of_ne_nil written
      have sequence (block : Text) (rest : List Text) :
          List.intercalate separator (block :: rest) =
            block ++ rest.flatMap fun next => separator ++ next := by
        induction rest generalizing block with
        | nil => simp
        | cons next rest inductionHypothesis =>
            rw [List.intercalate_cons_cons, inductionHypothesis]
            simp
      rw [List.nil_append, List.cons_append, sequence, sequence]
      simp
  | cons block others inductionHypothesis =>
      have more : others ++ middle ++ after ≠ [] := by simp [written]
      rw [List.cons_append, List.cons_append, List.intercalate_cons_of_ne_nil more,
        inductionHypothesis]
      simp

/-- The blocks of a store in canonical order, those of animations in the middle. -/
theorem blocks_eq (store : Store) :
    blocks true store =
      orderedTexts true (store.root.members.map RootDeclaration.write) ++
          orderedTexts true store.fontFaces.members ++
        orderedTexts true store.keyframes.values ++
        (((orderedRules true store.base).map fun entry => ruleText entry.1 entry.2) ++
          (orderedGroups store).map fun group =>
            groupText group.1 (orderedRules true group.2)) := by
  rw [blocks, List.append_assoc _ (List.map _ _)]

/-- Two stores that hold the same but for animations, and as many of these, have the same
canonical text exactly when their animations have. -/
theorem write_eq_iff
    {store other : Store}
    (same : store.SameRules other)
    (size : store.keyframes.size = other.keyframes.size) :
    write true store = write true other ↔
      animationText store.keyframes = animationText other.keyframes := by
  have length (keyframes : OrderedMap Text Text) :
      (orderedTexts true keyframes.values).length = keyframes.size := by
    rw [orderedTexts, if_pos rfl, List.length_mergeSort, OrderedMap.values, List.length_map,
      OrderedMap.size]
  rw [write, write, blocks_eq, blocks_eq, blocksBefore_eq same, blocksAfter_eq same]
  by_cases none : store.keyframes.size = 0
  · have left := List.length_eq_zero_iff.1 ((length store.keyframes).trans none)
    have right := List.length_eq_zero_iff.1 ((length other.keyframes).trans (size ▸ none))
    rw [animationText, animationText, left, right]
    exact ⟨fun _ => rfl, fun _ => rfl⟩
  · have left : orderedTexts true store.keyframes.values ≠ [] := fun empty =>
      none (by rw [← length, empty, List.length_nil])
    have right : orderedTexts true other.keyframes.values ≠ [] := fun empty =>
      none (by rw [size, ← length, empty, List.length_nil])
    rw [intercalate_middle _ _ _ left, intercalate_middle _ _ _ right,
      List.append_cancel_right_eq, List.append_cancel_left_eq]
    rfl

/-- The canonical text depends on nothing but the contents of a store: the order in which these
were put in does not show, neither between the sections nor inside them. -/
theorem write_eq_of_sameContents
    {store other : Store}
    (same : store.SameContents other) :
    write true store = write true other := by
  have animations : store.keyframes.entries.Perm other.keyframes.entries :=
    OrderedMap.perm_entries_of_get? same.keyframes
  refine (write_eq_iff same.sameRules animations.length_eq).2 ?_
  rw [animationText, animationText, OrderedMap.values, OrderedMap.values,
    orderedTexts_eq_of_perm (animations.map Prod.snd)]

/-- Two root declarations, font faces, animations and rules, and two at-rules of which one has
two rules, put in one way and the other way round. -/
theorem write_eq_of_reversed :
    let dark : Rule := ⟨["color: black".toList], true⟩
    let light : Rule := ⟨["color: white".toList], false⟩
    let roots : List RootDeclaration :=
      [⟨"x".toList, "1".toList, "a".toList⟩, ⟨"x".toList, "2".toList, "b".toList⟩]
    let texts := ["one".toList, "two".toList]
    let animations := [("fade".toList, "one".toList), ("spin".toList, "two".toList)]
    let rules := [(".a".toList, dark), (".b".toList, light)]
    let print := "@media print".toList
    let card := "@container card".toList
    let store : Store :=
      ⟨.ofList roots, .ofList texts, .ofList animations, .ofList rules,
        .ofList [(print, .ofList rules), (card, .ofList [(".c".toList, dark)])]⟩
    let other : Store :=
      ⟨.ofList roots.reverse, .ofList texts.reverse, .ofList animations.reverse,
        .ofList rules.reverse,
        .ofList [(card, .ofList [(".c".toList, dark)]), (print, .ofList rules.reverse)]⟩
    store.SameContents other ∧ write true store = write true other := by
  intro dark light roots texts animations rules print card store other
  have sameRules (selector : Text) : (OrderedMap.ofList rules).get? selector =
      (OrderedMap.ofList rules.reverse).get? selector :=
    OrderedMap.get?_ofList_eq_of_perm (by decide) (List.reverse_perm rules).symm selector
  have same : store.SameContents other := by
    refine ⟨?_, ?_, ?_, sameRules, ?_⟩
    · intro root
      rw [OrderedSet.mem_ofList, OrderedSet.mem_ofList, List.mem_reverse]
    · intro fontFace
      rw [OrderedSet.mem_ofList, OrderedSet.mem_ofList, List.mem_reverse]
    · exact OrderedMap.get?_ofList_eq_of_perm (by decide) (List.reverse_perm animations).symm
    · intro atRule
      by_cases printed : atRule = print
      · subst printed
        exact Option.Rel.some sameRules
      · by_cases contained : atRule = card
        · subst contained
          exact Option.Rel.some fun _ => rfl
        · have left : store.groups.get? atRule = none :=
            OrderedMap.get?_eq_none_iff.2
              (by simp [store, OrderedMap.keys_ofList, printed, contained])
          have right : other.groups.get? atRule = none :=
            OrderedMap.get?_eq_none_iff.2
              (by simp [other, OrderedMap.keys_ofList, printed, contained])
          rw [left, right]
          exact Option.Rel.none
  exact ⟨same, write_eq_of_sameContents same⟩

end Stylesheet

end AtomicCss
