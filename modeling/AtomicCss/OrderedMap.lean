/-!
Contract: finite maps and sets that remember the order in which their keys were
first inserted.

Owns:
- `OrderedMap`, whose insertion of a key that is present replaces its value and
  keeps its place;
- `OrderedSet`, whose insertion of a member changes nothing.

Does not own: any order on the keys themselves.
-/

namespace AtomicCss

universe u v

/-! ## Keyed lists -/

/-- Bind a key in a list of bindings: in its place if it is there, else at the end. -/
def bindKey
    {κ : Type u}
    {α : Type v}
    [DecidableEq κ]
    (key : κ)
    (value : α) : List (κ × α) → List (κ × α)
  | [] => [(key, value)]
  | entry :: rest =>
      if entry.1 = key then (key, value) :: rest else entry :: bindKey key value rest

/-- Binding a key adds it at the end of the keys unless it is there already. -/
theorem keys_bindKey
    {κ : Type u}
    {α : Type v}
    [DecidableEq κ]
    (key : κ)
    (value : α)
    (entries : List (κ × α)) :
    (bindKey key value entries).map Prod.fst =
      if key ∈ entries.map Prod.fst then entries.map Prod.fst
      else entries.map Prod.fst ++ [key] := by
  induction entries with
  | nil => simp [bindKey]
  | cons entry rest inductionHypothesis =>
      by_cases same : entry.1 = key
      · simp [bindKey, same]
      · have other : ¬ key = entry.1 := fun equal => same equal.symm
        simp only [bindKey, same, if_false, List.map_cons, inductionHypothesis,
          List.mem_cons, other, false_or]
        split <;> simp

theorem nodup_keys_bindKey
    {κ : Type u}
    {α : Type v}
    [DecidableEq κ]
    (key : κ)
    (value : α)
    {entries : List (κ × α)}
    (distinct : (entries.map Prod.fst).Nodup) :
    ((bindKey key value entries).map Prod.fst).Nodup := by
  rw [keys_bindKey]
  split
  · exact distinct
  · rename_i absent
    refine List.nodup_append.2 ⟨distinct, by simp, ?_⟩
    intro present member last equal
    rw [List.mem_singleton] at equal
    intro same
    exact absent (equal ▸ same ▸ member)

/-! ## Maps -/

/-- A finite map in the order in which its keys were first bound. -/
structure OrderedMap (κ : Type u) (α : Type v) where
  entries : List (κ × α)
  distinct : (entries.map Prod.fst).Nodup
deriving DecidableEq, Repr

namespace OrderedMap

variable {κ : Type u} {α : Type v}

/-- The map that binds no key. -/
def empty : OrderedMap κ α :=
  ⟨[], by simp⟩

/-- The keys in the order in which they were first bound. -/
def keys (map : OrderedMap κ α) : List κ :=
  map.entries.map Prod.fst

/-- The values in the order of their keys. -/
def values (map : OrderedMap κ α) : List α :=
  map.entries.map Prod.snd

/-- The number of keys. -/
def size (map : OrderedMap κ α) : Nat :=
  map.entries.length

/-- No key is bound. -/
def isEmpty (map : OrderedMap κ α) : Bool :=
  map.entries.isEmpty

variable [DecidableEq κ]

/-- The value of a key. -/
def get? (map : OrderedMap κ α) (key : κ) : Option α :=
  (map.entries.find? fun entry => entry.1 = key).map Prod.snd

/-- Bind a key: in its place if it is bound already, else after all others. -/
def insert (map : OrderedMap κ α) (key : κ) (value : α) : OrderedMap κ α :=
  ⟨bindKey key value map.entries, nodup_keys_bindKey key value map.distinct⟩

/-- Bind a key to a function of the value that it has so far. -/
def alter (map : OrderedMap κ α) (key : κ) (change : Option α → α) : OrderedMap κ α :=
  map.insert key (change (map.get? key))

/-- Bind the pairs of a list one after the other. -/
def insertAll (map : OrderedMap κ α) (pairs : List (κ × α)) : OrderedMap κ α :=
  pairs.foldl (fun bound pair => bound.insert pair.1 pair.2) map

/-- The map of a list of pairs, of which the later win. -/
def ofList (pairs : List (κ × α)) : OrderedMap κ α :=
  empty.insertAll pairs

/-- Insertion adds a key at the end of the keys unless it is bound already. -/
theorem keys_insert (map : OrderedMap κ α) (key : κ) (value : α) :
    (map.insert key value).keys =
      if key ∈ map.keys then map.keys else map.keys ++ [key] :=
  keys_bindKey key value map.entries

/-- After insertion a key has the value inserted, and the others keep theirs. -/
theorem get?_insert (map : OrderedMap κ α) (key other : κ) (value : α) :
    (map.insert key value).get? other =
      if key = other then some value else map.get? other := by
  suffices found : ∀ entries : List (κ × α),
      ((bindKey key value entries).find? fun entry => entry.1 = other).map Prod.snd =
        if key = other then some value
        else (entries.find? fun entry => entry.1 = other).map Prod.snd from
    found map.entries
  intro entries
  induction entries with
  | nil => by_cases equal : key = other <;> simp [bindKey, equal]
  | cons entry rest inductionHypothesis =>
      by_cases same : entry.1 = key
      · subst same
        by_cases equal : entry.1 = other <;> simp [bindKey, equal]
      · by_cases equal : entry.1 = other
        · have differs : ¬ key = other := fun sameKey => same (equal.trans sameKey.symm)
          simp only [bindKey, same, if_false, differs]
          simp [equal]
        · simp only [bindKey, same, if_false, equal, decide_false, List.find?_cons_of_neg,
            Bool.false_eq_true, not_false_eq_true, inductionHypothesis]

end OrderedMap

/-! ## Sets -/

/-- A finite set in the order in which its members were first inserted. -/
structure OrderedSet (α : Type u) where
  members : List α
  distinct : members.Nodup
deriving DecidableEq, Repr

namespace OrderedSet

variable {α : Type u}

/-- The set without members. -/
def empty : OrderedSet α :=
  ⟨[], by simp⟩

/-- The number of members. -/
def size (set : OrderedSet α) : Nat :=
  set.members.length

/-- There are no members. -/
def isEmpty (set : OrderedSet α) : Bool :=
  set.members.isEmpty

variable [DecidableEq α]

/-- Membership, decided. -/
def contains (set : OrderedSet α) (element : α) : Bool :=
  element ∈ set.members

/-- Insert an element: after all others, unless it is a member. -/
def insert (set : OrderedSet α) (element : α) : OrderedSet α :=
  if absent : element ∉ set.members then
    ⟨set.members ++ [element], by
      refine List.nodup_append.2 ⟨set.distinct, by simp, ?_⟩
      intro present member last equal
      rw [List.mem_singleton] at equal
      intro same
      exact absent (equal ▸ same ▸ member)⟩
  else
    set

/-- Insert the elements of a list one after the other. -/
def insertAll (set : OrderedSet α) (elements : List α) : OrderedSet α :=
  elements.foldl OrderedSet.insert set

/-- The distinct elements of a list, in the order of their first occurrence. -/
def ofList (elements : List α) : OrderedSet α :=
  empty.insertAll elements

theorem members_insert (set : OrderedSet α) (element : α) :
    (set.insert element).members =
      if element ∈ set.members then set.members else set.members ++ [element] := by
  unfold insert
  by_cases member : element ∈ set.members <;> simp [member]

end OrderedSet

end AtomicCss
