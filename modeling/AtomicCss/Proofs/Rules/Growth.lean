import AtomicCss.Proofs.OrderedMap
import AtomicCss.Rules.Store
import Mathlib.Data.List.Induction

/-!
Contract: how a store grows when the selectors put into it are new.

Owns:
- the selectors of a store, inside at-rules and outside;
- growth: every list of rules keeps what it has and takes new rules at its end;
- what inserting a contribution with a new selector does to both.

Does not own: why selectors are new.
-/

namespace AtomicCss

/-- A contribution has a rule when it has declarations. -/
def Contribution.hasRule (contribution : Contribution) : Bool :=
  !contribution.declarations.isEmpty

namespace Store

/-! ## Selectors -/

/-- The selectors of all rules, those outside at-rules first. -/
def selectors (store : Store) : List Text :=
  store.base.keys ++ store.groups.values.flatMap OrderedMap.keys

/-- There are as many rules as selectors, each counted where it occurs. -/
theorem ruleCount_eq_length_selectors (store : Store) :
    store.ruleCount = store.selectors.length := by
  have counted : ∀ (groups : List RuleMap) (size : Nat),
      groups.foldr (fun rules count => rules.size + count) size =
        size + (groups.flatMap OrderedMap.keys).length := by
    intro groups size
    induction groups with
    | nil => simp
    | cons rules others inductionHypothesis =>
        rw [List.foldr_cons, inductionHypothesis, List.flatMap_cons, List.length_append,
          OrderedMap.size, OrderedMap.keys, List.length_map]
        omega
  rw [ruleCount, counted, selectors, List.length_append, OrderedMap.size, OrderedMap.keys,
    List.length_map]

/-! ## Growth -/

/-- Every list of rules of a store is at the front of the list in its place in another,
and so are the at-rules. -/
structure Grows (before after : Store) : Prop where
  base : before.base.entries <+: after.base.entries
  atRules : before.groups.keys <+: after.groups.keys
  group :
    ∀ atRule rules, before.groups.get? atRule = some rules →
      ∃ more, after.groups.get? atRule = some more ∧ rules.entries <+: more.entries

namespace Grows

theorem refl (store : Store) : Grows store store where
  base := List.prefix_rfl
  atRules := List.prefix_rfl
  group := fun _ rules found => ⟨rules, found, List.prefix_rfl⟩

theorem trans {first second third : Store}
    (left : Grows first second)
    (right : Grows second third) :
    Grows first third where
  base := left.base.trans right.base
  atRules := left.atRules.trans right.atRules
  group := by
    intro atRule rules found
    obtain ⟨more, kept, front⟩ := left.group atRule rules found
    obtain ⟨most, last, frontAgain⟩ := right.group atRule more kept
    exact ⟨most, last, front.trans frontAgain⟩

end Grows

/-! ## One rule -/

section Rule

variable {store : Store} {selector : Text} (rule : Rule)

theorem base_insertRule_of_fresh (fresh : selector ∉ store.base.keys) :
    (store.insertRule none selector rule).base.entries =
      store.base.entries ++ [(selector, rule)] :=
  OrderedMap.entries_insert_of_not_mem rule fresh

/-- The rules under an at-rule after one more was put there. -/
theorem groups_insertRule (atRule : Text) :
    (store.insertRule (some atRule) selector rule).groups =
      store.groups.insert atRule
        (((store.groups.get? atRule).getD .empty).insert selector rule) :=
  rfl

theorem not_mem_keys_of_group
    {atRule : Text}
    {rules : RuleMap}
    (found : store.groups.get? atRule = some rules)
    (fresh : selector ∉ store.selectors) :
    selector ∉ rules.keys := by
  intro member
  refine fresh (List.mem_append_right _ (List.mem_flatMap.2 ⟨rules, ?_, member⟩))
  exact List.mem_map.2 ⟨(atRule, rules), OrderedMap.get?_eq_some_iff.1 found, rfl⟩

/-- A rule with a new selector adds that selector and no other. -/
theorem selectors_insertRule
    (atRule : Option Text)
    (fresh : selector ∉ store.selectors) :
    (store.insertRule atRule selector rule).selectors.Perm (selector :: store.selectors) := by
  have freshBase : selector ∉ store.base.keys :=
    fun member => fresh (List.mem_append_left _ member)
  cases atRule with
  | none =>
      have keys : (store.insertRule none selector rule).base.keys =
          store.base.keys ++ [selector] := by
        simp [OrderedMap.keys, base_insertRule_of_fresh rule freshBase]
      have groups : (store.insertRule none selector rule).groups = store.groups := rfl
      rw [selectors, keys, groups, List.append_assoc]
      exact List.perm_middle
  | some atRule =>
      have base : (store.insertRule (some atRule) selector rule).base = store.base := rfl
      rw [selectors, base, groups_insertRule]
      cases found : store.groups.get? atRule with
      | none =>
          have absent := OrderedMap.get?_eq_none_iff.1 found
          rw [OrderedMap.values, OrderedMap.entries_insert_of_not_mem _ absent]
          have single : (OrderedMap.insert (Option.getD none .empty) selector rule).keys =
              [selector] := rfl
          simp only [List.map_append, List.map_cons, List.map_nil, List.flatMap_append,
            List.flatMap_cons, List.flatMap_nil, List.append_nil, single]
          rw [← List.append_assoc]
          exact List.perm_append_singleton _ _
      | some rules =>
          have freshGroup := not_mem_keys_of_group found fresh
          obtain ⟨before, after, old, new⟩ :=
            OrderedMap.entries_insert_of_get? (rules.insert selector rule) found
          have keys : (rules.insert selector rule).keys = rules.keys ++ [selector] := by
            simp [OrderedMap.keys, OrderedMap.entries_insert_of_not_mem rule freshGroup]
          rw [selectors, OrderedMap.values, OrderedMap.values, Option.getD_some, new, old]
          simp only [List.map_append, List.map_cons, List.flatMap_append, List.flatMap_cons,
            keys]
          have moved :=
            @List.perm_middle _ selector
              (store.base.keys ++
                ((before.map Prod.snd).flatMap OrderedMap.keys ++ rules.keys))
              ((after.map Prod.snd).flatMap OrderedMap.keys)
          simpa using moved

/-- A rule with a new selector goes to the end of its list and leaves the others. -/
theorem grows_insertRule
    (atRule : Option Text)
    (fresh : selector ∉ store.selectors) :
    Grows store (store.insertRule atRule selector rule) := by
  cases atRule with
  | none =>
      have freshBase : selector ∉ store.base.keys :=
        fun member => fresh (List.mem_append_left _ member)
      refine ⟨?_, List.prefix_rfl, fun _ rules found => ⟨rules, found, List.prefix_rfl⟩⟩
      rw [base_insertRule_of_fresh rule freshBase]
      exact List.prefix_append _ _
  | some atRule =>
      refine ⟨List.prefix_rfl, OrderedMap.keys_prefix_insert _ _ _, ?_⟩
      intro other rules found
      rw [groups_insertRule, OrderedMap.get?_insert]
      by_cases same : atRule = other
      · subst same
        rw [if_pos rfl, found, Option.getD_some]
        refine ⟨_, rfl, ?_⟩
        rw [OrderedMap.entries_insert_of_not_mem rule (not_mem_keys_of_group found fresh)]
        exact List.prefix_append _ _
      · rw [if_neg same]
        exact ⟨rules, found, List.prefix_rfl⟩

end Rule

/-! ## One contribution -/

/-- What a contribution brings apart from its rule. -/
def collect (store : Store) (contribution : Contribution) : Store :=
  ({ store with root := store.root.insertAll contribution.rootRules }
    |>.insertKeyframes contribution.keyframes
    |>.insertFontFace contribution.fontFace)

theorem insert_eq (store : Store) (contribution : Contribution) :
    store.insert contribution =
      if contribution.declarations = [] then
        store.collect contribution
      else
        (store.collect contribution).insertRule contribution.atRule contribution.selector
          ⟨contribution.declarations, contribution.important⟩ :=
  rfl

theorem base_collect (store : Store) (contribution : Contribution) :
    (store.collect contribution).base = store.base := by
  unfold collect insertFontFace insertKeyframes
  split <;> split <;> rfl

theorem groups_collect (store : Store) (contribution : Contribution) :
    (store.collect contribution).groups = store.groups := by
  unfold collect insertFontFace insertKeyframes
  split <;> split <;> rfl

theorem selectors_collect (store : Store) (contribution : Contribution) :
    (store.collect contribution).selectors = store.selectors := by
  rw [selectors, selectors, base_collect, groups_collect]

theorem grows_collect (store : Store) (contribution : Contribution) :
    Grows store (store.collect contribution) where
  base := ⟨[], by rw [base_collect, List.append_nil]⟩
  atRules := ⟨[], by rw [groups_collect, List.append_nil]⟩
  group := by
    intro atRule rules found
    exact ⟨rules, by rw [groups_collect, found], List.prefix_rfl⟩

/-- A contribution with a new selector adds it if it has a rule. -/
theorem selectors_insert
    {store : Store}
    {contribution : Contribution}
    (fresh : contribution.hasRule → contribution.selector ∉ store.selectors) :
    (store.insert contribution).selectors.Perm
      (if contribution.hasRule then contribution.selector :: store.selectors
        else store.selectors) := by
  rw [insert_eq]
  by_cases empty : contribution.declarations = []
  · simp [Contribution.hasRule, empty, selectors_collect]
  · have rule : contribution.hasRule = true := by simp [Contribution.hasRule, empty]
    have absent := fresh rule
    rw [← selectors_collect store contribution] at absent ⊢
    rw [if_neg empty, if_pos rule]
    exact selectors_insertRule _ _ absent

/-- A contribution with a new selector lets the store grow. -/
theorem grows_insert
    {store : Store}
    {contribution : Contribution}
    (fresh : contribution.hasRule → contribution.selector ∉ store.selectors) :
    Grows store (store.insert contribution) := by
  rw [insert_eq]
  by_cases empty : contribution.declarations = []
  · rw [if_pos empty]
    exact grows_collect store contribution
  · have absent := fresh (by simp [Contribution.hasRule, empty])
    rw [← selectors_collect store contribution] at absent
    rw [if_neg empty]
    exact (grows_collect store contribution).trans (grows_insertRule _ _ absent)

/-! ## Many contributions -/

/-- The selectors of the contributions that have a rule. -/
def ruleSelectors (contributions : List Contribution) : List Text :=
  (contributions.filter Contribution.hasRule).map Contribution.selector

theorem insertAll_append_singleton
    (store : Store)
    (contributions : List Contribution)
    (contribution : Contribution) :
    store.insertAll (contributions ++ [contribution]) =
      (store.insertAll contributions).insert contribution := by
  rw [insertAll, List.foldl_append]
  rfl

/-- When the selectors of contributions are distinct, they are those of the store that the
contributions are put into, each as often as in the list. -/
theorem selectors_insertAll
    {contributions : List Contribution}
    (distinct : (ruleSelectors contributions).Nodup) :
    (empty.insertAll contributions).selectors.Perm (ruleSelectors contributions) := by
  induction contributions using List.reverseRecOn with
  | nil => exact List.Perm.refl _
  | append_singleton earlier contribution inductionHypothesis =>
      have selectors : ruleSelectors (earlier ++ [contribution]) =
          ruleSelectors earlier ++ ruleSelectors [contribution] := by
        simp [ruleSelectors]
      rw [selectors, List.nodup_append] at distinct
      have kept := inductionHypothesis distinct.1
      have fresh : contribution.hasRule → contribution.selector ∉
          (empty.insertAll earlier).selectors := by
        intro rule member
        exact distinct.2.2 _ (kept.mem_iff.1 member) _ (by simp [ruleSelectors, rule]) rfl
      rw [insertAll_append_singleton, selectors]
      refine (selectors_insert fresh).trans ?_
      cases rule : contribution.hasRule with
      | false => simpa [ruleSelectors, rule] using kept
      | true =>
          have last : ruleSelectors [contribution] = [contribution.selector] := by
            simp [ruleSelectors, rule]
          rw [if_pos rfl, last]
          exact (kept.cons _).trans (List.perm_append_singleton _ _).symm

end Store

end AtomicCss
