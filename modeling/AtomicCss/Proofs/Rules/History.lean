import AtomicCss.Proofs.Rules.Growth

/-!
Contract: the collections of a store are those of the contributions put into it.

Owns:
- what one contribution brings to each collection;
- each collection of a store after contributions, as one insertion of what they bring;
- the selectors of the rules brought.

Does not own: where contributions come from.
-/

namespace AtomicCss

/-! ## One contribution -/

namespace Contribution

/-- The CSS of the animation that a contribution brings, with its name. -/
def animations (contribution : Contribution) : List (Text × Text) :=
  contribution.keyframes.toList.map fun keyframes => (keyframes.name, keyframes.write)

/-- The rule that a contribution brings under an at-rule, or outside at-rules, with its
selector. -/
def rulesUnder (atRule : Option Text) (contribution : Contribution) : List (Text × Rule) :=
  if contribution.hasRule ∧ contribution.atRule = atRule then
    [(contribution.selector, ⟨contribution.declarations, contribution.important⟩)]
  else
    []

end Contribution

namespace Store

variable (store : Store) (contribution : Contribution)

theorem root_insert :
    (store.insert contribution).root = store.root.insertAll contribution.rootRules := by
  unfold insert insertRule insertFontFace insertKeyframes
  repeat' split
  all_goals rfl

theorem fontFaces_insert :
    (store.insert contribution).fontFaces =
      store.fontFaces.insertAll contribution.fontFace.toList := by
  unfold insert insertRule insertFontFace insertKeyframes
  repeat' split
  all_goals simp_all [OrderedSet.insertAll]

theorem keyframes_insert :
    (store.insert contribution).keyframes =
      store.keyframes.insertAll contribution.animations := by
  unfold insert insertRule insertFontFace insertKeyframes
  repeat' split
  all_goals simp_all [OrderedMap.insertAll, Contribution.animations]

theorem base_insert :
    (store.insert contribution).base =
      store.base.insertAll (contribution.rulesUnder none) := by
  rw [insert_eq, Contribution.rulesUnder]
  by_cases bare : contribution.declarations = []
  · simp [bare, Contribution.hasRule, base_collect, OrderedMap.insertAll]
  · cases place : contribution.atRule with
    | none =>
        simp [bare, Contribution.hasRule, insertRule, base_collect, OrderedMap.insertAll]
    | some atRule =>
        simp [bare, Contribution.hasRule, insertRule, base_collect, OrderedMap.insertAll]

/-- The group of an at-rule with rules put in.  Without any it stays as it is. -/
def extendGroup (group : Option RuleMap) (rules : List (Text × Rule)) : Option RuleMap :=
  if rules = [] then group else some ((group.getD .empty).insertAll rules)

theorem extendGroup_append
    (group : Option RuleMap)
    (first second : List (Text × Rule)) :
    extendGroup group (first ++ second) = extendGroup (extendGroup group first) second := by
  cases first with
  | nil => rfl
  | cons rule others =>
      cases second with
      | nil => simp [extendGroup]
      | cons next more => simp [extendGroup, OrderedMap.insertAll]

theorem get?_groups_insert (atRule : Text) :
    (store.insert contribution).groups.get? atRule =
      extendGroup (store.groups.get? atRule) (contribution.rulesUnder (some atRule)) := by
  rw [insert_eq, Contribution.rulesUnder]
  by_cases bare : contribution.declarations = []
  · simp [bare, Contribution.hasRule, groups_collect, extendGroup]
  · rw [if_neg bare]
    have ruled : contribution.hasRule = true := by simp [Contribution.hasRule, bare]
    cases place : contribution.atRule with
    | none => simp [insertRule, groups_collect, extendGroup]
    | some other =>
        rw [groups_insertRule, groups_collect, OrderedMap.get?_insert]
        by_cases same : other = atRule
        · subst same
          simp [ruled, extendGroup, OrderedMap.insertAll]
        · simp [same, extendGroup]

/-! ## Many contributions -/

/-- A collection that takes in a list from every contribution takes in all lists at once.
By induction on the contributions: what one brings is taken in before what follows. -/
theorem collection_insertAll
    {γ β : Type}
    (collection : Store → γ)
    (take : γ → List β → γ)
    (brings : Contribution → List β)
    (take_nil : ∀ content, take content [] = content)
    (take_append :
      ∀ content first second, take content (first ++ second) = take (take content first) second)
    (step :
      ∀ (store : Store) contribution,
        collection (store.insert contribution) = take (collection store) (brings contribution))
    (contributions : List Contribution) :
    collection (store.insertAll contributions) =
      take (collection store) (contributions.flatMap brings) := by
  induction contributions generalizing store with
  | nil => exact (take_nil _).symm
  | cons contribution others inductionHypothesis =>
      rw [List.flatMap_cons, take_append, ← step]
      exact inductionHypothesis (store.insert contribution)

variable (contributions : List Contribution)

theorem root_insertAll :
    (store.insertAll contributions).root =
      store.root.insertAll (contributions.flatMap Contribution.rootRules) :=
  store.collection_insertAll root OrderedSet.insertAll _ (fun _ => rfl)
    OrderedSet.insertAll_append root_insert contributions

theorem fontFaces_insertAll :
    (store.insertAll contributions).fontFaces =
      store.fontFaces.insertAll
        (contributions.flatMap fun contribution => contribution.fontFace.toList) :=
  store.collection_insertAll fontFaces OrderedSet.insertAll _ (fun _ => rfl)
    OrderedSet.insertAll_append fontFaces_insert contributions

theorem keyframes_insertAll :
    (store.insertAll contributions).keyframes =
      store.keyframes.insertAll (contributions.flatMap Contribution.animations) :=
  store.collection_insertAll keyframes OrderedMap.insertAll _ (fun _ => rfl)
    OrderedMap.insertAll_append keyframes_insert contributions

theorem base_insertAll :
    (store.insertAll contributions).base =
      store.base.insertAll
        (contributions.flatMap fun contribution => contribution.rulesUnder none) :=
  store.collection_insertAll base OrderedMap.insertAll _ (fun _ => rfl)
    OrderedMap.insertAll_append base_insert contributions

theorem get?_groups_insertAll (atRule : Text) :
    (store.insertAll contributions).groups.get? atRule =
      extendGroup (store.groups.get? atRule)
        (contributions.flatMap fun contribution => contribution.rulesUnder (some atRule)) :=
  store.collection_insertAll (fun store => store.groups.get? atRule) extendGroup _
    (fun _ => rfl) extendGroup_append (fun store contribution =>
      get?_groups_insert store contribution atRule) contributions

/-! ## Selectors of rules -/

/-- The rules in one place have selectors of contributions with rules, in their order. -/
theorem rulesUnder_sublist (atRule : Option Text) :
    ((contributions.flatMap fun contribution => contribution.rulesUnder atRule).map
      Prod.fst).Sublist (ruleSelectors contributions) := by
  induction contributions with
  | nil => exact List.Sublist.slnil
  | cons contribution others inductionHypothesis =>
      rw [List.flatMap_cons, List.map_append]
      have split : ruleSelectors (contribution :: others) =
          ruleSelectors [contribution] ++ ruleSelectors others := by
        simp [ruleSelectors, List.filter_cons]
        split <;> rfl
      rw [split]
      refine List.Sublist.append ?_ inductionHypothesis
      unfold Contribution.rulesUnder
      by_cases brought : contribution.hasRule ∧ contribution.atRule = atRule
      · rw [if_pos brought]
        simp [ruleSelectors, brought.1]
      · rw [if_neg brought]
        exact List.nil_sublist _

end Store

end AtomicCss
