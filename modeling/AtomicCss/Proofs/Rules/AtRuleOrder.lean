import AtomicCss.Proofs.Rules.WidthCondition
import AtomicCss.Proofs.Sorting
import AtomicCss.Rules.AtRuleOrder

/-!
Contract: the order of at-rules tells all texts apart, so that sorting forgets the order in
which they came.

Owns:
- the order of at-rules as a comparison, and their sorting;
- the sections of sorted at-rules, by what the texts say and not by their ranks.

Does not own: what comes under an at-rule.
-/

namespace AtomicCss.AtRule

instance : Std.TransCmp order :=
  inferInstanceAs
    (Std.TransCmp
      (compareLex (compareOn kindRank)
        (compareLex (compareOn fun atRule => (breakpoint atRule).rank)
          (compareLex (compareOn fun atRule => (breakpoint atRule).pixels)
            (compareOn (id : Text → Text))))))

/-- Only equal texts are equal in the order of at-rules, which compares them last of all. -/
theorem eq_of_order_eq {first second : Text} (equal : order first second = .eq) :
    first = second := by
  simp only [order, compareLex, Ordering.then_eq_eq] at equal
  have text : compare first second = .eq := equal.2.2.2
  exact Std.LawfulEqCmp.eq_of_compare text

/-- The same at-rules are sorted alike, in whatever order they come. -/
theorem sort_eq_of_perm {first second : List Text} (same : first.Perm second) :
    sort first = sort second :=
  mergeSort_eq_of_perm order (fun _ _ _ _ => eq_of_order_eq) same

theorem pairwise_sort (atRules : List Text) :
    (sort atRules).Pairwise fun earlier later => (order earlier later).isLE = true :=
  pairwise_mergeSort_isLE order atRules

/-! ## Sections -/

/-- The rule applies to media. -/
def IsMedia (atRule : Text) : Prop :=
  "@media".toList <+: atRule

/-- The rule applies to containers. -/
def IsContainer (atRule : Text) : Prop :=
  "@container".toList <+: atRule

theorem IsContainer.not_isMedia {atRule : Text} (container : IsContainer atRule) :
    ¬ IsMedia atRule := by
  intro media
  have longer := List.prefix_of_prefix_length_le media container (by decide)
  revert longer
  decide

theorem kindRank_eq_zero_iff {atRule : Text} : kindRank atRule = 0 ↔ IsMedia atRule := by
  rw [IsMedia, ← Text.startsWith_iff_prefix, kindRank]
  split
  · rename_i media
    exact iff_of_true rfl media
  · rename_i other
    refine iff_of_false ?_ other
    split <;> decide

theorem kindRank_eq_one_iff {atRule : Text} : kindRank atRule = 1 ↔ IsContainer atRule := by
  constructor
  · intro second
    rw [IsContainer, ← Text.startsWith_iff_prefix]
    rw [kindRank] at second
    split at second
    · cases second
    · split at second
      · rename_i container
        exact container
      · cases second
  · intro container
    have other := container.not_isMedia
    rw [IsMedia, ← Text.startsWith_iff_prefix] at other
    rw [IsContainer, ← Text.startsWith_iff_prefix] at container
    rw [kindRank, if_neg other, if_pos container]

theorem kindRank_le_two (atRule : Text) : kindRank atRule ≤ 2 := by
  rw [kindRank]
  split
  · decide
  · split <;> decide

/-- Both rules apply to media, both to containers, or neither to either. -/
def SameKind (first second : Text) : Prop :=
  (IsMedia first ↔ IsMedia second) ∧ (IsContainer first ↔ IsContainer second)

theorem SameKind.kindRank_eq {first second : Text} (same : SameKind first second) :
    kindRank first = kindRank second := by
  obtain ⟨media, container⟩ := same
  rw [← kindRank_eq_zero_iff, ← kindRank_eq_zero_iff] at media
  rw [← kindRank_eq_one_iff, ← kindRank_eq_one_iff] at container
  have firstBound := kindRank_le_two first
  have secondBound := kindRank_le_two second
  omega

/-- A rule may stand before another one.  What is media goes before what is not, and what is a
container before what is neither.  Among rules of one kind what has a least width goes before what
has none, and what has a greatest width before what has neither, the narrow before the wide. -/
structure MayPrecede (earlier later : Text) : Prop where
  media : IsMedia later → IsMedia earlier
  container : IsContainer later → IsMedia earlier ∨ IsContainer earlier
  least :
    SameKind earlier later → ∀ wide, ReadsLeast later wide →
      ∃ narrow ≤ wide, ReadsLeast earlier narrow
  greatest :
    SameKind earlier later → ∀ wide, ReadsGreatest later wide →
      (∃ pixels, ReadsLeast earlier pixels) ∨ ∃ narrow ≤ wide, ReadsGreatest earlier narrow

/-- The parts of the order, the first that tells two rules apart first. -/
theorem order_eq_then (first second : Text) :
    order first second =
      (compare (kindRank first) (kindRank second)).then
        ((compare (breakpoint first).rank (breakpoint second).rank).then
          ((compare (breakpoint first).pixels (breakpoint second).pixels).then
            (compare first second))) :=
  rfl

section Below

variable {earlier later : Text} (below : (order earlier later).isLE = true)

include below

theorem kindRank_le_of_isLE : kindRank earlier ≤ kindRank later := by
  rw [order_eq_then, Ordering.isLE_then_iff_and] at below
  exact Nat.isLE_compare.1 below.1

theorem rank_le_of_isLE (same : kindRank earlier = kindRank later) :
    (breakpoint earlier).rank ≤ (breakpoint later).rank := by
  rw [order_eq_then, Nat.compare_eq_eq.2 same, Ordering.eq_then,
    Ordering.isLE_then_iff_and] at below
  exact Nat.isLE_compare.1 below.1

theorem pixels_le_of_isLE
    (same : kindRank earlier = kindRank later)
    (level : (breakpoint earlier).rank = (breakpoint later).rank) :
    (breakpoint earlier).pixels ≤ (breakpoint later).pixels := by
  rw [order_eq_then, Nat.compare_eq_eq.2 same, Nat.compare_eq_eq.2 level, Ordering.eq_then,
    Ordering.eq_then, Ordering.isLE_then_iff_and] at below
  exact Nat.isLE_compare.1 below.1

theorem mayPrecede_of_isLE : MayPrecede earlier later := by
  have kind := kindRank_le_of_isLE below
  refine ⟨fun media => ?_, fun container => ?_, fun same wide least => ?_,
    fun same wide greatest => ?_⟩
  · rw [← kindRank_eq_zero_iff] at media ⊢
    omega
  · rw [← kindRank_eq_one_iff] at container
    rw [← kindRank_eq_zero_iff, ← kindRank_eq_one_iff]
    omega
  · have rank := rank_le_of_isLE below same.kindRank_eq
    have pixels := pixels_le_of_isLE below same.kindRank_eq
    rw [breakpoint_eq_least_iff.2 least] at rank pixels
    obtain ⟨narrow, front⟩ := rank_breakpoint_eq_zero_iff.1 (Nat.le_zero.1 rank)
    rw [breakpoint_eq_least_iff.2 front] at pixels
    exact ⟨narrow, pixels rfl, front⟩
  · have rank := rank_le_of_isLE below same.kindRank_eq
    have pixels := pixels_le_of_isLE below same.kindRank_eq
    rw [breakpoint_eq_greatest_iff.2 greatest] at rank pixels
    rcases Nat.le_one_iff_eq_zero_or_eq_one.1 rank with zero | one
    · exact .inl (rank_breakpoint_eq_zero_iff.1 zero)
    · obtain ⟨narrow, front⟩ := rank_breakpoint_eq_one_iff.1 one
      rw [breakpoint_eq_greatest_iff.2 front] at pixels
      exact .inr ⟨narrow, pixels rfl, front⟩

end Below

/-- At-rules are totally ordered, and only equal texts are equal in the order.  So the sorted list
has what the list has, in ascending order, is the same whatever the order of the list, and has its
sections one after the other. -/
theorem sort_in_sections :
    (∀ first second third : Text,
      (order first second).isLE = true → (order second third).isLE = true →
        (order first third).isLE = true) ∧
    (∀ first second : Text, order second first = (order first second).swap) ∧
    (∀ first second : Text,
      (order first second).isLE = true → (order second first).isLE = true → first = second) ∧
    (∀ first second : Text, order first second = .eq ↔ first = second) ∧
    ∀ atRules : List Text,
      (sort atRules).Perm atRules ∧
      ((sort atRules).Pairwise fun earlier later => (order earlier later).isLE = true) ∧
      (∀ others : List Text, others.Perm atRules → sort others = sort atRules) ∧
      (sort atRules).Pairwise MayPrecede := by
  refine ⟨fun _ _ _ => Std.TransCmp.isLE_trans, fun _ _ => Std.OrientedCmp.eq_swap, ?_, ?_, ?_⟩
  · intro first second below above
    exact eq_of_order_eq (Std.OrientedCmp.isLE_antisymm below above)
  · intro first second
    refine ⟨eq_of_order_eq, ?_⟩
    rintro rfl
    exact Std.ReflCmp.compare_self
  · intro atRules
    refine ⟨List.mergeSort_perm atRules _, pairwise_sort atRules, fun _ => sort_eq_of_perm, ?_⟩
    exact (pairwise_sort atRules).imp mayPrecede_of_isLE

/-- A rule for media with both widths counts as one with a least width, and a width that is no
64-bit word counts as none. -/
theorem sort_in_sections_mixed :
    let both := "@media (max-width: 9px) and (min-width: 1024px)".toList
    let upTo := "@media (max-width: 600px)".toList
    let huge := "@media (min-width: 18446744073709551616px)".toList
    let container := "@container (min-width: 96px)".toList
    let other := "@layer base".toList
    sort [other, huge, container, upTo, both] = [both, upTo, huge, container, other] := by
  intro both upTo huge container other
  have ordered : [both, upTo, huge, container, other].Pairwise fun earlier later =>
      (order earlier later).isLE = true := by
    decide
  obtain ⟨-, -, -, -, sorted⟩ := sort_in_sections
  obtain ⟨-, -, alike, -⟩ := sorted [both, upTo, huge, container, other]
  have same : [other, huge, container, upTo, both].Perm [both, upTo, huge, container, other] := by
    decide
  rw [alike _ same]
  exact List.mergeSort_of_pairwise ordered

end AtomicCss.AtRule
