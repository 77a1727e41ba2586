import Mathlib.Data.List.Sort

/-!
Contract: lists that are sorted by a comparison.

Owns:
- the sorting of lists with the same elements by a comparison that tells them apart;
- the last element of a kind in a sorted list.

Does not own: what is compared.
-/

namespace AtomicCss

universe u

variable {α : Type u} (comparison : α → α → Ordering) [Std.TransCmp comparison]

/-! ## The order of a sorted list -/

theorem isLE_total (first second : α) :
    ((comparison first second).isLE || (comparison second first).isLE) = true := by
  have swapped : comparison second first = (comparison first second).swap :=
    Std.OrientedCmp.eq_swap
  rw [swapped]
  cases comparison first second <;> rfl

theorem pairwise_mergeSort_isLE (list : List α) :
    (list.mergeSort fun first second => (comparison first second).isLE).Pairwise
      fun first second => (comparison first second).isLE = true := by
  refine List.pairwise_mergeSort ?_ (isLE_total comparison) list
  intro first second third
  exact Std.TransCmp.isLE_trans

/-- Two lists with the same elements are equal once sorted, when elements that compare as
equal are equal. -/
theorem mergeSort_eq_of_perm
    {first second : List α}
    (distinct : ∀ one ∈ first, ∀ other ∈ second, comparison one other = .eq → one = other)
    (same : first.Perm second) :
    (first.mergeSort fun one other => (comparison one other).isLE) =
      second.mergeSort fun one other => (comparison one other).isLE := by
  refine List.Perm.eq_of_pairwise ?_ (pairwise_mergeSort_isLE comparison first)
    (pairwise_mergeSort_isLE comparison second) ?_
  · intro one other left right below above
    exact distinct one (List.mem_mergeSort.1 left) other (List.mem_mergeSort.1 right)
      (Std.OrientedCmp.isLE_antisymm below above)
  · exact ((List.mergeSort_perm first _).trans same).trans (List.mergeSort_perm second _).symm

/-! ## The last element -/

/-- The elements of a list that no other one exceeds. -/
def greatest (list : List α) : List α :=
  list.filter fun one => list.all fun other => (comparison other one).isLE

omit [Std.TransCmp comparison] in
theorem mem_greatest {comparison : α → α → Ordering} {list : List α} {one : α} :
    one ∈ greatest comparison list ↔
      one ∈ list ∧ ∀ other ∈ list, (comparison other one).isLE = true := by
  rw [greatest, List.mem_filter, List.all_eq_true]

/-- Sorting keeps the greatest elements of a kind in their order. -/
theorem greatest_sublist_mergeSort (list : List α) (kind : α → Bool) :
    (greatest comparison (list.filter kind)).Sublist
      ((list.mergeSort fun one other => (comparison one other).isLE).filter kind) := by
  have level : (greatest comparison (list.filter kind)).Pairwise fun one other =>
      (comparison one other).isLE = true := by
    refine List.pairwise_of_forall_mem_list fun one left other right => ?_
    exact (mem_greatest.1 right).2 one (mem_greatest.1 left).1
  have inside : (greatest comparison (list.filter kind)).Sublist list :=
    List.filter_sublist.trans List.filter_sublist
  have kept := List.sublist_mergeSort (fun _ _ _ => Std.TransCmp.isLE_trans)
    (isLE_total comparison) level inside
  have all : (greatest comparison (list.filter kind)).filter kind =
      greatest comparison (list.filter kind) := by
    rw [List.filter_eq_self]
    intro one member
    exact (List.mem_filter.1 (mem_greatest.1 member).1).2
  rw [← all]
  exact kept.filter kind

/-- A part of a list without repetitions ends with the last element of the list if it has
it. -/
theorem getLast?_eq_of_sublist
    {part whole : List α}
    (inside : part.Sublist whole)
    (distinct : whole.Nodup)
    (has : ∀ last, whole.getLast? = some last → last ∈ part) :
    part.getLast? = whole.getLast? := by
  rcases List.eq_nil_or_concat' whole with rfl | ⟨front, last, rfl⟩
  · rw [List.sublist_nil.1 inside]
  · have member := has last (by simp)
    obtain ⟨earlier, rest, rfl, before, after⟩ := List.sublist_append_iff.1 inside
    rcases List.sublist_singleton.1 after with rfl | rfl
    · rw [List.append_nil] at member
      exact absurd rfl
        ((List.nodup_append.1 distinct).2.2 last (before.subset member) last (by simp))
    · simp

/-- The last element of a kind in a sorted list is, of the greatest of the kind, the one that
stood last before sorting. -/
theorem getLast?_filter_mergeSort
    {list : List α}
    (distinct : list.Nodup)
    (kind : α → Bool) :
    ((list.mergeSort fun one other => (comparison one other).isLE).filter kind).getLast? =
      (greatest comparison (list.filter kind)).getLast? := by
  have part := greatest_sublist_mergeSort comparison list kind
  have ordered := (pairwise_mergeSort_isLE comparison list).filter kind
  generalize sort : (list.mergeSort fun one other => (comparison one other).isLE) = sorted
    at part ordered ⊢
  have same : sorted.Perm list := sort ▸ List.mergeSort_perm list _
  refine (getLast?_eq_of_sublist part ((same.nodup_iff.2 distinct).filter kind) ?_).symm
  intro last found
  obtain ⟨front, split⟩ := List.getLast?_eq_some_iff.1 found
  have members (one : α) : one ∈ list.filter kind ↔ one ∈ front ++ [last] := by
    rw [← split, List.mem_filter, List.mem_filter, same.mem_iff]
  rw [split] at ordered
  refine mem_greatest.2 ⟨(members last).2 (by simp), ?_⟩
  intro other member
  rcases List.mem_append.1 ((members other).1 member) with earlier | itself
  · exact (List.pairwise_append.1 ordered).2.2 other earlier last (by simp)
  · rw [List.mem_singleton.1 itself]
    simpa using isLE_total comparison last last

end AtomicCss
