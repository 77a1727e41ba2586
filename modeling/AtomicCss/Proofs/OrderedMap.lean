import AtomicCss.OrderedMap
import Mathlib.Data.List.Induction
import Mathlib.Data.List.Nodup

/-!
Contract: what insertion does to the bindings of an ordered map and the members of an
ordered set.

Owns:
- the members of the set of a list, and when there are as many of them as elements;
- the value of a key as membership of a binding;
- the bindings after inserting a key that is new, and one that is bound already;
- the keys of a map as a set, and the keys and values of the map of a list, also of one
  that is bound twice;
- when two maps or two sets are the same but for the order.

Does not own: what the keys, values and members mean.
-/

namespace AtomicCss.OrderedSet

universe u

variable {α : Type u}

/-- A set is its members in their order. -/
theorem ext_members {first second : OrderedSet α} (same : first.members = second.members) :
    first = second := by
  cases first
  cases second
  cases same
  rfl

variable [DecidableEq α]

theorem mem_insertAll {set : OrderedSet α} {elements : List α} {element : α} :
    element ∈ (set.insertAll elements).members ↔
      element ∈ set.members ∨ element ∈ elements := by
  induction elements generalizing set with
  | nil => simp [insertAll]
  | cons first others inductionHypothesis =>
      have inserted : element ∈ (set.insert first).members ↔
          element ∈ set.members ∨ element = first := by
        rw [members_insert]
        by_cases present : first ∈ set.members
        · rw [if_pos present]
          exact ⟨Or.inl, fun either => either.elim id fun same => same ▸ present⟩
        · rw [if_neg present, List.mem_append, List.mem_singleton]
      rw [insertAll, List.foldl_cons]
      show element ∈ ((set.insert first).insertAll others).members ↔ _
      rw [inductionHypothesis, inserted, List.mem_cons, or_assoc]

theorem mem_ofList {elements : List α} {element : α} :
    element ∈ (ofList elements).members ↔ element ∈ elements := by
  rw [ofList, mem_insertAll]
  simp [empty]

theorem isEmpty_ofList {elements : List α} : (ofList elements).isEmpty = true ↔ elements = [] := by
  rw [isEmpty, List.isEmpty_iff, List.eq_nil_iff_forall_not_mem,
    List.eq_nil_iff_forall_not_mem]
  simp only [mem_ofList]

/-- Two sets of lists with the same elements are the same but for the order. -/
theorem perm_ofList
    {first second : List α}
    (same : ∀ element, element ∈ first ↔ element ∈ second) :
    (ofList first).members.Perm (ofList second).members := by
  refine (List.perm_ext_iff_of_nodup (ofList first).distinct (ofList second).distinct).2 ?_
  intro element
  rw [mem_ofList, mem_ofList, same]

theorem insertAll_append (set : OrderedSet α) (first second : List α) :
    set.insertAll (first ++ second) = (set.insertAll first).insertAll second :=
  List.foldl_append

theorem members_ofList_append_singleton (elements : List α) (last : α) :
    (ofList (elements ++ [last])).members =
      if last ∈ elements then (ofList elements).members
      else (ofList elements).members ++ [last] := by
  have inserted : ofList (elements ++ [last]) = (ofList elements).insert last :=
    insertAll_append empty elements [last]
  rw [inserted, members_insert]
  exact if_congr mem_ofList rfl rfl

/-- The first element comes first, and no more after it. -/
theorem members_ofList_cons (first : α) (others : List α) :
    (ofList (first :: others)).members =
      first :: (ofList others).members.filter fun other => other ≠ first := by
  induction others using List.reverseRecOn with
  | nil => simp [ofList, insertAll, members_insert, empty]
  | append_singleton earlier last inductionHypothesis =>
      rw [← List.cons_append, members_ofList_append_singleton, inductionHypothesis,
        members_ofList_append_singleton]
      by_cases known : last ∈ earlier
      · rw [if_pos (List.mem_cons_of_mem first known), if_pos known]
      · by_cases same : last = first
        · subst same
          simp [known]
        · simp [known, same]

theorem members_ofList_of_nodup {elements : List α} (distinct : elements.Nodup) :
    (ofList elements).members = elements := by
  induction elements with
  | nil => rfl
  | cons first others inductionHypothesis =>
      rw [List.nodup_cons] at distinct
      have different : ∀ other ∈ others, decide (other ≠ first) = true := by
        intro other member
        simpa using fun same : other = first => distinct.1 (same ▸ member)
      rw [members_ofList_cons, inductionHypothesis distinct.2,
        List.filter_eq_self.2 different]

/-- The set of a list is what is left of it when repetitions are dropped. -/
theorem sublist_ofList (elements : List α) : (ofList elements).members.Sublist elements := by
  induction elements using List.reverseRecOn with
  | nil => exact List.Sublist.slnil
  | append_singleton earlier last inductionHypothesis =>
      rw [members_ofList_append_singleton]
      split
      · exact inductionHypothesis.trans (List.sublist_append_left earlier [last])
      · exact inductionHypothesis.append (List.Sublist.refl [last])

theorem length_ofList_eq_iff {elements : List α} :
    (ofList elements).members.length = elements.length ↔ elements.Nodup := by
  constructor
  · intro same
    have distinct := (ofList elements).distinct
    rwa [(sublist_ofList elements).eq_of_length same] at distinct
  · intro distinct
    rw [members_ofList_of_nodup distinct]

/-- Elements that are members already change nothing. -/
theorem insertAll_of_forall_mem
    {set : OrderedSet α}
    {elements : List α}
    (present : ∀ element ∈ elements, element ∈ set.members) :
    set.insertAll elements = set := by
  induction elements with
  | nil => rfl
  | cons first others inductionHypothesis =>
      rw [List.forall_mem_cons] at present
      have kept : set.insert first = set := by
        refine ext_members ?_
        rw [members_insert, if_pos present.1]
      show (set.insert first).insertAll others = set
      rw [kept, inductionHypothesis present.2]

/-- The set of a list has the elements of the list, each where it stands first. -/
theorem members_ofList [BEq α] [LawfulBEq α] (elements : List α) :
    (ofList elements).members = elements.eraseDups := by
  induction elements using List.reverseRecOn with
  | nil => rfl
  | append_singleton earlier last inductionHypothesis =>
      rw [members_ofList_append_singleton, inductionHypothesis, List.eraseDups_append]
      by_cases known : last ∈ earlier
      · have again : [last].removeAll earlier = [] := by simp [List.removeAll, known]
        rw [if_pos known, again, List.eraseDups_nil, List.append_nil]
      · have fresh : [last].removeAll earlier = [last] := by simp [List.removeAll, known]
        rw [if_neg known, fresh, List.eraseDups_cons, List.filter_nil, List.eraseDups_nil]

end AtomicCss.OrderedSet

namespace AtomicCss.OrderedMap

universe u v

variable {κ : Type u} {α : Type v}

/-! ## Values as bindings -/

theorem mem_keys_iff {map : OrderedMap κ α} {key : κ} :
    key ∈ map.keys ↔ ∃ value, (key, value) ∈ map.entries := by
  simp [keys]

variable [DecidableEq κ]

/-- A key has a value when it is bound to it. -/
theorem get?_eq_some_iff {map : OrderedMap κ α} {key : κ} {value : α} :
    map.get? key = some value ↔ (key, value) ∈ map.entries := by
  obtain ⟨entries, distinct⟩ := map
  simp only [get?]
  induction entries with
  | nil => simp
  | cons entry rest inductionHypothesis =>
      obtain ⟨first, bound⟩ := entry
      rw [List.map_cons, List.nodup_cons] at distinct
      by_cases same : first = key
      · subst same
        have absent : (first, value) ∉ rest := fun member =>
          distinct.1 (List.mem_map.2 ⟨(first, value), member, rfl⟩)
        simp [absent, eq_comm]
      · have other : ¬ key = first := fun equal => same equal.symm
        simp only [List.find?_cons, same, decide_false, inductionHypothesis distinct.2,
          List.mem_cons, Prod.mk.injEq, other, false_and, false_or]

theorem get?_eq_none_iff {map : OrderedMap κ α} {key : κ} :
    map.get? key = none ↔ key ∉ map.keys := by
  rw [mem_keys_iff, not_exists, Option.eq_none_iff_forall_ne_some]
  simp only [ne_eq, get?_eq_some_iff]

/-! ## Bindings after insertion -/

theorem bindKey_of_not_mem
    {key : κ}
    (value : α)
    {entries : List (κ × α)}
    (absent : key ∉ entries.map Prod.fst) :
    bindKey key value entries = entries ++ [(key, value)] := by
  induction entries with
  | nil => rfl
  | cons entry rest inductionHypothesis =>
      simp only [List.map_cons, List.mem_cons, not_or] at absent
      have other : ¬ entry.1 = key := fun equal => absent.1 equal.symm
      rw [bindKey, if_neg other, inductionHypothesis absent.2, List.cons_append]

theorem bindKey_append
    {key : κ}
    (old value : α)
    {before : List (κ × α)}
    (after : List (κ × α))
    (absent : key ∉ before.map Prod.fst) :
    bindKey key value (before ++ (key, old) :: after) = before ++ (key, value) :: after := by
  induction before with
  | nil => simp [bindKey]
  | cons entry rest inductionHypothesis =>
      simp only [List.map_cons, List.mem_cons, not_or] at absent
      have other : ¬ entry.1 = key := fun equal => absent.1 equal.symm
      rw [List.cons_append, bindKey, if_neg other, inductionHypothesis absent.2,
        List.cons_append]

/-- A new key is bound after all others. -/
theorem entries_insert_of_not_mem
    {map : OrderedMap κ α}
    {key : κ}
    (value : α)
    (fresh : key ∉ map.keys) :
    (map.insert key value).entries = map.entries ++ [(key, value)] :=
  bindKey_of_not_mem value fresh

/-- A key that is bound already takes the new value in its place. -/
theorem entries_insert_of_get?
    {map : OrderedMap κ α}
    {key : κ}
    {old : α}
    (value : α)
    (bound : map.get? key = some old) :
    ∃ before after,
      map.entries = before ++ (key, old) :: after ∧
      (map.insert key value).entries = before ++ (key, value) :: after := by
  obtain ⟨before, after, split⟩ := List.append_of_mem (get?_eq_some_iff.1 bound)
  refine ⟨before, after, split, ?_⟩
  have distinct := map.distinct
  rw [split, List.map_append, List.nodup_append] at distinct
  have absent : key ∉ before.map Prod.fst := fun member =>
    distinct.2.2 key member key (by simp) rfl
  show bindKey key value map.entries = _
  rw [split, bindKey_append old value after absent]

/-- Insertion keeps the keys that were there at the front. -/
theorem keys_prefix_insert (map : OrderedMap κ α) (key : κ) (value : α) :
    map.keys <+: (map.insert key value).keys := by
  rw [keys_insert]
  split
  · exact List.prefix_rfl
  · exact List.prefix_append _ _

/-! ## Keys -/

/-- The keys of a map as a set. -/
def keySet (map : OrderedMap κ α) : OrderedSet κ :=
  ⟨map.keys, map.distinct⟩

omit [DecidableEq κ] in
theorem isEmpty_keySet (map : OrderedMap κ α) : map.keySet.isEmpty = map.isEmpty :=
  List.isEmpty_map

theorem keySet_insert (map : OrderedMap κ α) (key : κ) (value : α) :
    (map.insert key value).keySet = map.keySet.insert key := by
  refine OrderedSet.ext_members ?_
  show (map.insert key value).keys = (map.keySet.insert key).members
  rw [keys_insert, OrderedSet.members_insert]
  rfl

/-! ## Lists of bindings -/

/-- Pairs with new and distinct keys are bound after all others, in their order. -/
theorem entries_insertAll_of_nodup
    {map : OrderedMap κ α}
    {pairs : List (κ × α)}
    (distinct : (map.keys ++ pairs.map Prod.fst).Nodup) :
    (map.insertAll pairs).entries = map.entries ++ pairs := by
  induction pairs generalizing map with
  | nil => simp [insertAll]
  | cons pair others inductionHypothesis =>
      have fresh : pair.1 ∉ map.keys := fun member =>
        (List.nodup_append.1 distinct).2.2 _ member _ (by simp) rfl
      have keys : (map.insert pair.1 pair.2).keys = map.keys ++ [pair.1] := by
        rw [keys_insert, if_neg fresh]
      have rest := @inductionHypothesis (map.insert pair.1 pair.2) (by
        rw [keys, List.append_assoc]
        exact distinct)
      rw [entries_insert_of_not_mem _ fresh, List.append_assoc] at rest
      exact rest

theorem entries_ofList_of_nodup
    {pairs : List (κ × α)}
    (distinct : (pairs.map Prod.fst).Nodup) :
    (ofList pairs).entries = pairs :=
  entries_insertAll_of_nodup distinct

theorem insertAll_append (map : OrderedMap κ α) (first second : List (κ × α)) :
    map.insertAll (first ++ second) = (map.insertAll first).insertAll second :=
  List.foldl_append

theorem keySet_insertAll (map : OrderedMap κ α) (pairs : List (κ × α)) :
    (map.insertAll pairs).keySet = map.keySet.insertAll (pairs.map Prod.fst) := by
  induction pairs generalizing map with
  | nil => rfl
  | cons pair others inductionHypothesis =>
      have rest := inductionHypothesis (map.insert pair.1 pair.2)
      rw [keySet_insert] at rest
      exact rest

theorem keySet_ofList (pairs : List (κ × α)) :
    (ofList pairs).keySet = OrderedSet.ofList (pairs.map Prod.fst) :=
  keySet_insertAll empty pairs

/-- The map of a list of pairs binds the keys of the pairs, each where it stands first. -/
theorem keys_ofList [BEq κ] [LawfulBEq κ] (pairs : List (κ × α)) :
    (ofList pairs).keys = (pairs.map Prod.fst).eraseDups :=
  (congrArg OrderedSet.members (keySet_ofList pairs)).trans (OrderedSet.members_ofList _)

theorem isEmpty_ofList {pairs : List (κ × α)} : (ofList pairs).isEmpty = true ↔ pairs = [] := by
  rw [← isEmpty_keySet, keySet_ofList, OrderedSet.isEmpty_ofList, List.map_eq_nil_iff]

/-- In the map of a list of pairs a key has the value of the last pair with it. -/
theorem get?_ofList (pairs : List (κ × α)) (key : κ) :
    (ofList pairs).get? key =
      (pairs.filter fun pair => pair.1 = key).getLast?.map Prod.snd := by
  induction pairs using List.reverseRecOn with
  | nil => rfl
  | append_singleton earlier pair inductionHypothesis =>
      have last : ofList (earlier ++ [pair]) = (ofList earlier).insert pair.1 pair.2 :=
        insertAll_append empty earlier [pair]
      rw [last, get?_insert, inductionHypothesis, List.filter_append]
      by_cases same : pair.1 = key
      · simp [same]
      · simp [same]

/-- Maps of lists with the same keys have as many bindings. -/
theorem size_ofList_eq
    {first second : List (κ × α)}
    (same : (first.map Prod.fst).Perm (second.map Prod.fst)) :
    (ofList first).size = (ofList second).size := by
  have keys : (ofList first).keys.Perm (ofList second).keys := by
    show (ofList first).keySet.members.Perm (ofList second).keySet.members
    rw [keySet_ofList, keySet_ofList]
    exact OrderedSet.perm_ofList fun key => same.mem_iff
  have length := keys.length_eq
  rw [OrderedMap.keys, OrderedMap.keys, List.length_map, List.length_map] at length
  exact length

/-- Two maps with the same values have the same bindings, but for the order. -/
theorem perm_entries_of_get?
    {first second : OrderedMap κ α}
    (same : ∀ key, first.get? key = second.get? key) :
    first.entries.Perm second.entries := by
  refine (List.perm_ext_iff_of_nodup first.distinct.of_map second.distinct.of_map).2 ?_
  rintro ⟨key, value⟩
  rw [← get?_eq_some_iff, ← get?_eq_some_iff, same]

/-- Two maps with the same bindings, but for the order, have the same values. -/
theorem get?_eq_of_perm
    {first second : OrderedMap κ α}
    (same : first.entries.Perm second.entries)
    (key : κ) :
    first.get? key = second.get? key := by
  apply Option.ext
  intro value
  rw [get?_eq_some_iff, get?_eq_some_iff, same.mem_iff]

theorem entries_eq_filterMap (map : OrderedMap κ α) :
    map.entries = map.keys.filterMap fun key => (map.get? key).map fun value => (key, value) := by
  have bound : ∀ entry ∈ map.entries,
      ((map.get? entry.1).map fun value => (entry.1, value)) = some entry := by
    intro entry member
    rw [get?_eq_some_iff.2 member]
    rfl
  rw [keys, List.filterMap_map]
  exact ((List.filterMap_congr bound).trans List.filterMap_some).symm

/-- A map is its keys in their order and their values. -/
theorem ext_get?
    {first second : OrderedMap κ α}
    (keys : first.keys = second.keys)
    (values : ∀ key, first.get? key = second.get? key) :
    first = second := by
  have entries : first.entries = second.entries := by
    rw [first.entries_eq_filterMap, second.entries_eq_filterMap, keys]
    simp only [values]
  cases first
  cases second
  cases entries
  rfl

/-- Pairs that are bound a second time change nothing. -/
theorem ofList_append_self (pairs : List (κ × α)) : ofList (pairs ++ pairs) = ofList pairs := by
  refine ext_get? ?_ fun key => ?_
  · show (ofList (pairs ++ pairs)).keySet.members = (ofList pairs).keySet.members
    rw [keySet_ofList, keySet_ofList, List.map_append, OrderedSet.ofList,
      OrderedSet.insertAll_append]
    exact congrArg _
      (OrderedSet.insertAll_of_forall_mem fun _ member => OrderedSet.mem_ofList.2 member)
  · rw [get?_ofList, get?_ofList, List.filter_append, List.getLast?_append, Option.or_self]

/-- Pairs with distinct keys give the same values in whatever order they come. -/
theorem get?_ofList_eq_of_perm
    {first second : List (κ × α)}
    (distinct : (first.map Prod.fst).Nodup)
    (same : first.Perm second)
    (key : κ) :
    (ofList first).get? key = (ofList second).get? key := by
  refine get?_eq_of_perm ?_ key
  rw [entries_ofList_of_nodup distinct,
    entries_ofList_of_nodup ((same.map Prod.fst).nodup distinct)]
  exact same

end AtomicCss.OrderedMap
