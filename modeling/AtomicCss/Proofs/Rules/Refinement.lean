import AtomicCss.Proofs.Rules.History

/-!
Contract: a store is its history with the repetitions taken out.

Owns:
- the contributions of a history that have a rule, and those that have it in one place;
- what rules keep of contributions, and a store of a history;
- the places of rules, each counted once;
- the main statement: what is put into the empty store is kept in this way.

Does not own: where contributions come from, and the order in which a stylesheet shows them.

## First and last

Sets keep what comes first.  Maps keep the key that comes first and the value that comes last.
The rules inside at-rules are a map of maps, so there the first use of an at-rule and the first
use of a selector under it are two orders, and the same selector counts once in every place.
-/

namespace AtomicCss

/-! ## Histories -/

namespace Contribution

/-- The rule that the declarations of a contribution make. -/
def rule (contribution : Contribution) : Rule :=
  ⟨contribution.declarations, contribution.important⟩

/-- Where a rule goes: the at-rule, if there is one, and the selector. -/
def place (contribution : Contribution) : Option Text × Text :=
  (contribution.atRule, contribution.selector)

/-- The at-rule that a contribution needs a group for. -/
def atRuleUsed (contribution : Contribution) : Option Text :=
  if contribution.hasRule then contribution.atRule else none

theorem hasOutput_eq_false_iff {contribution : Contribution} :
    contribution.hasOutput = false ↔
      contribution.hasRule = false ∧ contribution.rootRules = [] ∧
        contribution.keyframes = none ∧ contribution.fontFace = none := by
  simp only [hasOutput, hasRule, Bool.or_eq_false_iff, Bool.not_eq_false',
    List.isEmpty_iff, Option.isSome_eq_false_iff, Option.isNone_iff_eq_none, and_assoc]

end Contribution

/-- The contributions of a history that have a rule. -/
def ruled (history : List Contribution) : List Contribution :=
  history.filter Contribution.hasRule

/-- The contributions that have a rule under an at-rule, or outside at-rules. -/
def ruledUnder (atRule : Option Text) (history : List Contribution) : List Contribution :=
  (ruled history).filter fun contribution => contribution.atRule = atRule

theorem flatMap_rulesUnder (atRule : Option Text) (history : List Contribution) :
    (history.flatMap fun contribution => contribution.rulesUnder atRule) =
      (ruledUnder atRule history).map fun contribution =>
        (contribution.selector, contribution.rule) := by
  induction history with
  | nil => rfl
  | cons contribution others inductionHypothesis =>
      rw [List.flatMap_cons, inductionHypothesis, Contribution.rulesUnder]
      unfold ruledUnder ruled
      rw [List.filter_filter, List.filter_filter, List.filter_cons]
      by_cases brought : contribution.hasRule = true ∧ contribution.atRule = atRule
      · rw [if_pos brought, if_pos (by simp [brought])]
        rfl
      · rw [if_neg brought, if_neg (by simpa [and_comm] using brought)]
        rfl

theorem flatMap_atRuleUsed (history : List Contribution) :
    (history.flatMap fun contribution => contribution.atRuleUsed.toList) =
      (ruled history).filterMap Contribution.atRule := by
  induction history with
  | nil => rfl
  | cons contribution others inductionHypothesis =>
      rw [List.flatMap_cons, inductionHypothesis, Contribution.atRuleUsed, ruled, ruled,
        List.filter_cons]
      cases contribution.hasRule with
      | false => rfl
      | true =>
          rw [if_pos rfl, if_pos rfl, List.filterMap_cons]
          cases contribution.atRule <;> rfl

/-! ## Rules -/

/-- Rules hold one rule for each selector of contributions: that of the last contribution with
the selector, where the first one stood. -/
structure RuleMap.Keeps (rules : RuleMap) (contributions : List Contribution) : Prop where
  selectors : rules.keys = (contributions.map Contribution.selector).eraseDups
  last :
    ∀ selector, rules.get? selector =
      (contributions.filter fun contribution =>
        contribution.selector = selector).getLast?.map Contribution.rule

theorem RuleMap.keeps_ofList (contributions : List Contribution) :
    RuleMap.Keeps
      (OrderedMap.ofList
        (contributions.map fun contribution => (contribution.selector, contribution.rule)))
      contributions where
  selectors := by
    rw [OrderedMap.keys_ofList, List.map_map]
    rfl
  last := by
    intro selector
    rw [OrderedMap.get?_ofList, List.filter_map, List.getLast?_map, Option.map_map]
    rfl

namespace Store

/-! ## At-rules -/

theorem keySet_groups_insert (store : Store) (contribution : Contribution) :
    (store.insert contribution).groups.keySet =
      store.groups.keySet.insertAll contribution.atRuleUsed.toList := by
  rw [insert_eq, Contribution.atRuleUsed]
  by_cases bare : contribution.declarations = []
  · simp [bare, Contribution.hasRule, groups_collect, OrderedSet.insertAll]
  · rw [if_neg bare, if_pos (by simp [Contribution.hasRule, bare])]
    cases contribution.atRule with
    | none => simp [insertRule, groups_collect, OrderedSet.insertAll]
    | some atRule =>
        rw [groups_insertRule, OrderedMap.keySet_insert, groups_collect]
        rfl

theorem keySet_groups_insertAll (store : Store) (contributions : List Contribution) :
    (store.insertAll contributions).groups.keySet =
      store.groups.keySet.insertAll
        (contributions.flatMap fun contribution => contribution.atRuleUsed.toList) :=
  store.collection_insertAll (fun store => store.groups.keySet) OrderedSet.insertAll _
    (fun _ => rfl) OrderedSet.insertAll_append keySet_groups_insert contributions

/-! ## Places -/

/-- The places of all rules, those outside at-rules first. -/
def places (store : Store) : List (Option Text × Text) :=
  (store.base.keys.map fun selector => (none, selector)) ++
    store.groups.entries.flatMap fun group =>
      group.2.keys.map fun selector => (some group.1, selector)

theorem ruleCount_eq_length_places (store : Store) : store.ruleCount = store.places.length := by
  have selectors : store.places.map Prod.snd = store.selectors := by
    simp [places, Store.selectors, OrderedMap.values, List.map_flatMap, List.flatMap_map,
      Function.comp_def]
  rw [ruleCount_eq_length_selectors, ← selectors, List.length_map]

theorem mem_places_base {store : Store} {selector : Text} :
    (none, selector) ∈ store.places ↔ selector ∈ store.base.keys := by
  simp [places]

theorem mem_places_group {store : Store} {atRule selector : Text} :
    (some atRule, selector) ∈ store.places ↔
      ∃ rules, store.groups.get? atRule = some rules ∧ selector ∈ rules.keys := by
  simp [places, OrderedMap.get?_eq_some_iff]

/-- No place occurs twice: a map of rules has each selector once, and there is one for each
at-rule. -/
theorem nodup_places (store : Store) : store.places.Nodup := by
  have inside (atRule : Option Text) (rules : RuleMap) :
      (rules.keys.map fun selector => (atRule, selector)).Nodup :=
    rules.distinct.map fun _ _ same => (Prod.mk.inj same).2
  refine List.nodup_append.2 ⟨inside none store.base, ?_, ?_⟩
  · refine List.nodup_flatMap.2 ⟨fun group _ => inside (some group.1) group.2, ?_⟩
    refine (List.pairwise_map.1 store.groups.distinct).imp ?_
    intro group other differ place left right
    obtain ⟨_, _, rfl⟩ := List.mem_map.1 left
    obtain ⟨_, _, same⟩ := List.mem_map.1 right
    exact differ (Option.some.inj (Prod.mk.inj same).1).symm
  · rintro _ left _ right rfl
    obtain ⟨_, _, rfl⟩ := List.mem_map.1 left
    obtain ⟨group, _, member⟩ := List.mem_flatMap.1 right
    obtain ⟨_, _, same⟩ := List.mem_map.1 member
    cases (Prod.mk.inj same).1

/-! ## Stores -/

/-- A store keeps of a history what a stylesheet needs of it: every key where it was first used,
with the rule or the animation that was last put there. -/
structure Refines (store : Store) (history : List Contribution) : Prop where
  base : RuleMap.Keeps store.base (ruledUnder none history)
  atRules : store.groups.keys = ((ruled history).filterMap Contribution.atRule).eraseDups
  groups :
    ∀ atRule rules, store.groups.get? atRule = some rules →
      rules.isEmpty = false ∧ RuleMap.Keeps rules (ruledUnder (some atRule) history)
  animations :
    store.keyframes.keys =
      ((history.filterMap Contribution.keyframes).map Keyframes.name).eraseDups
  lastAnimation :
    ∀ name, store.keyframes.get? name =
      ((history.filterMap Contribution.keyframes).filter fun keyframes =>
        keyframes.name = name).getLast?.map Keyframes.write
  root : store.root.members = (history.flatMap Contribution.rootRules).eraseDups
  fontFaces : store.fontFaces.members = (history.filterMap Contribution.fontFace).eraseDups
  isEmpty_iff :
    store.isEmpty = true ↔ ∀ contribution ∈ history, contribution.hasOutput = false
  ruleCount_eq : store.ruleCount = ((ruled history).map Contribution.place).eraseDups.length

section History

variable (history : List Contribution)

theorem keeps_base : RuleMap.Keeps (empty.insertAll history).base (ruledUnder none history) := by
  rw [base_insertAll, flatMap_rulesUnder]
  exact RuleMap.keeps_ofList _

theorem keys_groups :
    (empty.insertAll history).groups.keys =
      ((ruled history).filterMap Contribution.atRule).eraseDups := by
  have keySet := keySet_groups_insertAll empty history
  rw [flatMap_atRuleUsed] at keySet
  exact (congrArg OrderedSet.members keySet).trans (OrderedSet.members_ofList _)

/-- The group of an at-rule is there when some rule is, and holds those that are. -/
theorem get?_groups (atRule : Text) :
    (empty.insertAll history).groups.get? atRule =
      if ruledUnder (some atRule) history = [] then none
      else some
        (OrderedMap.ofList
          ((ruledUnder (some atRule) history).map fun contribution =>
            (contribution.selector, contribution.rule))) := by
  rw [get?_groups_insertAll, flatMap_rulesUnder, extendGroup]
  exact if_congr List.map_eq_nil_iff rfl rfl

theorem keeps_group
    {atRule : Text}
    {rules : RuleMap}
    (found : (empty.insertAll history).groups.get? atRule = some rules) :
    rules.isEmpty = false ∧ RuleMap.Keeps rules (ruledUnder (some atRule) history) := by
  rw [get?_groups] at found
  split at found
  · cases found
  · rename_i used
    obtain rfl := Option.some.inj found
    refine ⟨?_, RuleMap.keeps_ofList _⟩
    rw [← Bool.not_eq_true, OrderedMap.isEmpty_ofList, List.map_eq_nil_iff]
    exact used

theorem entries_keyframes :
    (empty.insertAll history).keyframes =
      OrderedMap.ofList
        ((history.filterMap Contribution.keyframes).map fun keyframes =>
          (keyframes.name, keyframes.write)) := by
  have brought : history.flatMap Contribution.animations =
      (history.filterMap Contribution.keyframes).map fun keyframes =>
        (keyframes.name, keyframes.write) := by
    unfold Contribution.animations
    rw [List.filterMap_eq_flatMap_toList, List.map_flatMap]
  rw [keyframes_insertAll, brought]
  rfl

theorem mem_places_insertAll {place : Option Text × Text} :
    place ∈ (empty.insertAll history).places ↔
      place ∈ (ruled history).map Contribution.place := by
  have inPlace (atRule : Option Text) (selector : Text) :
      selector ∈ ((ruledUnder atRule history).map Contribution.selector).eraseDups ↔
        (atRule, selector) ∈ (ruled history).map Contribution.place := by
    simp [ruledUnder, Contribution.place, and_assoc, Prod.ext_iff]
  obtain ⟨atRule, selector⟩ := place
  cases atRule with
  | none => rw [mem_places_base, (keeps_base history).selectors, inPlace]
  | some atRule =>
      rw [mem_places_group, ← inPlace]
      constructor
      · rintro ⟨rules, found, member⟩
        rwa [(keeps_group history found).2.selectors] at member
      · intro member
        have used : ruledUnder (some atRule) history ≠ [] := by
          intro unused
          simp [unused] at member
        refine ⟨_, (get?_groups history atRule).trans (if_neg used), ?_⟩
        rwa [(RuleMap.keeps_ofList _).selectors]

theorem isEmpty_insertAll :
    (empty.insertAll history).isEmpty = true ↔
      ∀ contribution ∈ history, contribution.hasOutput = false := by
  have root : (empty.insertAll history).root.isEmpty = true ↔
      ∀ contribution ∈ history, contribution.rootRules = [] := by
    rw [root_insertAll, ← List.flatMap_eq_nil_iff]
    exact OrderedSet.isEmpty_ofList
  have fontFaces : (empty.insertAll history).fontFaces.isEmpty = true ↔
      ∀ contribution ∈ history, contribution.fontFace.toList = [] := by
    rw [fontFaces_insertAll, ← List.flatMap_eq_nil_iff]
    exact OrderedSet.isEmpty_ofList
  have keyframes : (empty.insertAll history).keyframes.isEmpty = true ↔
      ∀ contribution ∈ history, contribution.animations = [] := by
    rw [keyframes_insertAll, ← List.flatMap_eq_nil_iff]
    exact OrderedMap.isEmpty_ofList
  have base : (empty.insertAll history).base.isEmpty = true ↔
      ∀ contribution ∈ history, contribution.rulesUnder none = [] := by
    rw [base_insertAll, ← List.flatMap_eq_nil_iff]
    exact OrderedMap.isEmpty_ofList
  have groups : (empty.insertAll history).groups.isEmpty = true ↔
      ∀ contribution ∈ history, contribution.atRuleUsed.toList = [] := by
    rw [← OrderedMap.isEmpty_keySet, keySet_groups_insertAll, ← List.flatMap_eq_nil_iff]
    exact OrderedSet.isEmpty_ofList
  rw [isEmpty]
  simp only [Bool.and_eq_true, root, fontFaces, keyframes, base, groups, ← forall₂_and]
  refine forall₂_congr fun contribution _ => ?_
  rw [Contribution.hasOutput_eq_false_iff, Contribution.rulesUnder, Contribution.atRuleUsed,
    Contribution.animations]
  cases contribution.hasRule <;> cases contribution.atRule <;>
    simp [and_comm, and_left_comm]

/-- Whatever is put into the empty store, and in whatever order, with whatever repetitions. -/
theorem refines_history : (empty.insertAll history).Refines history where
  base := keeps_base history
  atRules := keys_groups history
  groups := fun _ _ found => keeps_group history found
  animations := by
    rw [entries_keyframes, OrderedMap.keys_ofList, List.map_map]
    rfl
  lastAnimation := by
    intro name
    rw [entries_keyframes, OrderedMap.get?_ofList, List.filter_map, List.getLast?_map,
      Option.map_map]
    rfl
  root := by
    rw [root_insertAll]
    exact OrderedSet.members_ofList _
  fontFaces := by
    rw [fontFaces_insertAll, ← List.filterMap_eq_flatMap_toList]
    exact OrderedSet.members_ofList _
  isEmpty_iff := isEmpty_insertAll history
  ruleCount_eq := by
    have same : (empty.insertAll history).places.Perm
        ((ruled history).map Contribution.place).eraseDups := by
      rw [← OrderedSet.members_ofList]
      refine (List.perm_ext_iff_of_nodup (nodup_places _) (OrderedSet.distinct _)).2 ?_
      intro place
      rw [OrderedSet.mem_ofList, mem_places_insertAll]
    rw [ruleCount_eq_length_places, same.length_eq]

end History

end Store

end AtomicCss
