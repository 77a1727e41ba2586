import AtomicCss.Proofs.ClassName.Form
import AtomicCss.Proofs.Text.Dashes
import Mathlib.Algebra.Group.Nat.Even
import Mathlib.Data.List.TakeWhile

/-!
Contract: the parts of class names that are put together with two dashes.

Owns:
- the number of dashes at the end of a text;
- the exact condition under which two texts joined by two dashes have the parts of the one
  and then the parts of the other, and a class name for which they do not;
- the parts of a list of texts that is joined by two dashes, and the text that parts come from.

Does not own: what the parts of a class name mean.

## Why the end of the first text decides

Of several dashes in a row the first two separate, then the next two, and so on.  An even
number of them at the end of the first text is used up before the two that join, an odd number
leaves one over: it takes the first of the two that join, and the second one stays in front of
the text that follows.
-/

namespace AtomicCss

namespace Text

/-! ## Dashes at the end -/

/-- The number of dashes that a text ends with. -/
def dashesAtEnd (text : Text) : Nat :=
  (text.reverse.takeWhile (· = '-')).length

theorem dashesAtEnd_of_all {text : Text} (dashes : ∀ character ∈ text, character = '-') :
    dashesAtEnd text = text.length := by
  have all : text.reverse.takeWhile (· = '-') = text.reverse :=
    List.takeWhile_eq_self_iff.2 (by simpa using dashes)
  rw [dashesAtEnd, all, List.length_reverse]

theorem dashesAtEnd_of_getLast? {text : Text} (other : text.getLast? ≠ some '-') :
    dashesAtEnd text = 0 := by
  rw [← List.head?_reverse] at other
  rw [dashesAtEnd, List.length_eq_zero_iff, List.takeWhile_eq_nil_iff]
  intro positive
  simpa [List.head?_eq_getElem?, List.getElem?_eq_getElem positive] using other

/-- Only in front of nothing but dashes a further dash is one at the end. -/
theorem dashesAtEnd_cons
    {character : Char}
    {text : Text}
    (other : ¬ (character = '-' ∧ ∀ later ∈ text, later = '-')) :
    dashesAtEnd (character :: text) = dashesAtEnd text := by
  rw [dashesAtEnd, dashesAtEnd, List.reverse_cons, List.takeWhile_append]
  split
  · rename_i whole
    have all := List.takeWhile_eq_self_iff.1
      ((List.takeWhile_prefix _).eq_of_length whole)
    have marked : character ≠ '-' := fun dash => other ⟨dash, by simpa using all⟩
    simp [marked, whole]
  · rfl

/-- Two dashes at the front do not change whether their number at the end is even. -/
theorem even_dashesAtEnd_dashes (text : Text) :
    Even (dashesAtEnd ('-' :: '-' :: text)) ↔ Even (dashesAtEnd text) := by
  by_cases dashes : ∀ later ∈ text, later = '-'
  · rw [dashesAtEnd_of_all dashes, dashesAtEnd_of_all (by simpa using dashes)]
    simp [Nat.even_add_one]
  · rw [dashesAtEnd_cons (by simp [dashes]), dashesAtEnd_cons (by simp [dashes])]

end Text

namespace Grammar

open Text

/-! ## Parts of joined texts -/

/-- A character that does not start two dashes belongs to the first part. -/
theorem parts_cons
    {character : Char}
    {text : Text}
    (other : ¬ (character = '-' ∧ text.head? = some '-')) :
    parts (character :: text) = (parts text).modifyHead (character :: ·) := by
  have nonempty := parts_ne_nil text
  rw [parts]
  · cases split : parts text with
    | nil => exact absurd split nonempty
    | cons first others => rfl
  · rintro rest rfl rfl
    exact other ⟨rfl, rfl⟩

/-- Two texts joined by two dashes have the parts of the first and then those of the second
exactly when the first one ends with an even number of dashes. -/
theorem parts_joined_iff (first second : Text) :
    parts (first ++ '-' :: '-' :: second) = parts first ++ parts second ↔
      Even (dashesAtEnd first) := by
  fun_induction parts first with
  | case1 => simp [parts, dashesAtEnd]
  | case2 rest inductionHypothesis =>
      rw [even_dashesAtEnd_dashes, ← inductionHypothesis]
      simp [parts]
  | case3 character rest apart none inductionHypothesis =>
      exact absurd none (parts_ne_nil rest)
  | case4 character rest apart head tail found inductionHypothesis =>
      by_cases alone : character = '-' ∧ rest = []
      · obtain ⟨rfl, rfl⟩ := alone
        -- The lone dash takes the first of the two that join.
        simp_all [parts, dashesAtEnd]
      · have ordinary : ¬ (character = '-' ∧ rest.head? = some '-') := by
          rintro ⟨dash, next⟩
          obtain ⟨later, rfl⟩ := List.head?_eq_some_iff.1 next
          exact apart later dash rfl
        have before : ¬ (character = '-' ∧
            (rest ++ '-' :: '-' :: second).head? = some '-') := by
          cases rest with
          | nil => exact fun next => alone ⟨next.1, rfl⟩
          | cons next later => exact ordinary
        have notAll : ¬ (character = '-' ∧ ∀ later ∈ rest, later = '-') := by
          rintro ⟨dash, all⟩
          cases rest with
          | nil => exact alone ⟨dash, rfl⟩
          | cons next later => exact ordinary ⟨dash, by simp [all next]⟩
        rw [dashesAtEnd_cons notAll, ← inductionHypothesis, List.cons_append,
          parts_cons before, found]
        -- Both sides start with a part that the character is put in front of.
        cases split : parts (rest ++ '-' :: '-' :: second) with
        | nil => exact absurd split (parts_ne_nil _)
        | cons first others => simp

/-- When the first text ends with a dash that the two dashes leave over, its last part ends
before that dash. -/
theorem parts_concat_joined
    {first : Text}
    (second : Text)
    (paired : Even (dashesAtEnd first)) :
    parts ((first ++ ['-']) ++ '-' :: '-' :: second) = parts first ++ parts ('-' :: second) := by
  rw [← (parts_joined_iff first ('-' :: second)).2 paired]
  simp

/-- A text of one part in front of two dashes is a part there too exactly when it does not end
with a dash. -/
theorem parts_single_joined_iff
    {piece : Text}
    (single : parts piece = [piece])
    (rest : Text)
    (others : List Text) :
    parts (piece ++ '-' :: '-' :: rest) = piece :: others ↔
      piece.getLast? ≠ some '-' ∧ parts rest = others := by
  by_cases dash : piece.getLast? = some '-'
  · simp only [dash, ne_eq, not_true_eq_false, false_and, iff_false]
    obtain ⟨front, rfl⟩ := List.getLast?_eq_some_iff.1 dash
    have member : front ++ ['-'] ∈ parts (front ++ ['-']) := by
      rw [single]
      exact List.mem_singleton_self _
    have apart := dashesApart_of_mem_parts member
    have other : front.getLast? ≠ some '-' := by
      intro last
      obtain ⟨earlier, rfl⟩ := List.getLast?_eq_some_iff.1 last
      exact apart ⟨earlier, [], by simp⟩
    have paired : Even (dashesAtEnd front) := by
      rw [dashesAtEnd_of_getLast? other]
      exact Even.zero
    rw [parts_concat_joined rest paired]
    intro same
    cases split : parts front with
    | nil => exact parts_ne_nil front split
    | cons head tail =>
        have short := (prefix_of_parts split).length_le
        rw [split, List.cons_append, List.cons.injEq] at same
        rw [same.1, List.length_append, List.length_singleton] at short
        omega
  · have paired : Even (dashesAtEnd piece) := by
      rw [dashesAtEnd_of_getLast? dash]
      exact Even.zero
    rw [(parts_joined_iff piece rest).2 paired, single]
    simp [dash]

/-- Parts of their own that are joined by two dashes are the parts again exactly when none but
the last ends with a dash. -/
theorem parts_intercalate_iff
    {pieces : List Text}
    (nonempty : pieces ≠ [])
    (single : ∀ piece ∈ pieces, parts piece = [piece]) :
    parts (List.intercalate ['-', '-'] pieces) = pieces ↔
      ∀ piece ∈ pieces.dropLast, piece.getLast? ≠ some '-' := by
  induction pieces with
  | nil => exact absurd rfl nonempty
  | cons piece others inductionHypothesis =>
      cases others with
      | nil => simpa using single
      | cons next others =>
          have later := inductionHypothesis (List.cons_ne_nil _ _)
            fun piece member => single piece (List.mem_cons_of_mem _ member)
          have joined : List.intercalate ['-', '-'] (piece :: next :: others) =
              piece ++ '-' :: '-' :: List.intercalate ['-', '-'] (next :: others) := by
            simp [List.intercalate_cons_cons]
          rw [joined, parts_single_joined_iff (single piece List.mem_cons_self), later,
            List.dropLast_cons_cons, List.forall_mem_cons]

/-! ## Joined parts -/

/-- Joining the parts of a text by two dashes gives the text back. -/
theorem intercalate_parts (text : Text) : List.intercalate ['-', '-'] (parts text) = text := by
  fun_induction parts text with
  | case1 => rfl
  | case2 rest inductionHypothesis =>
      rw [List.intercalate_cons_of_ne_nil (parts_ne_nil rest), inductionHypothesis]
      rfl
  | case3 character rest apart none inductionHypothesis =>
      exact absurd none (parts_ne_nil rest)
  | case4 character rest apart first others found inductionHypothesis =>
      rw [found] at inductionHypothesis
      cases others with
      | nil => simpa using inductionHypothesis
      | cons second others =>
          rw [List.intercalate_cons_cons] at inductionHypothesis ⊢
          simpa using inductionHypothesis

/-- A text without two dashes in a row is one part. -/
theorem parts_of_dashesApart {text : Text} (apart : Text.DashesApart text) :
    parts text = [text] := by
  induction text with
  | nil => rfl
  | cons character rest inductionHypothesis =>
      rw [Text.DashesApart.cons_iff] at apart
      rw [parts_cons apart.2, inductionHypothesis apart.1]
      rfl

/-- Texts that are joined by two dashes are the parts again exactly when none has two dashes in
a row and none but the last ends with a dash. -/
theorem parts_intercalate_eq_iff {pieces : List Text} (nonempty : pieces ≠ []) :
    parts (List.intercalate ['-', '-'] pieces) = pieces ↔
      (∀ piece ∈ pieces, Text.DashesApart piece) ∧
        ∀ piece ∈ pieces.dropLast, piece.getLast? ≠ some '-' := by
  constructor
  · intro same
    have apart : ∀ piece ∈ pieces, Text.DashesApart piece := by
      intro piece member
      rw [← same] at member
      exact dashesApart_of_mem_parts member
    have single piece (member : piece ∈ pieces) := parts_of_dashesApart (apart piece member)
    exact ⟨apart, (parts_intercalate_iff nonempty single).1 same⟩
  · rintro ⟨apart, ends⟩
    have single piece (member : piece ∈ pieces) := parts_of_dashesApart (apart piece member)
    exact (parts_intercalate_iff nonempty single).2 ends

/-- No part but the last ends with a dash: two dashes separate as soon as they come. -/
theorem getLast?_of_mem_dropLast_parts
    {text part : Text}
    (member : part ∈ (parts text).dropLast) :
    part.getLast? ≠ some '-' := by
  have same : parts (List.intercalate ['-', '-'] (parts text)) = parts text := by
    rw [intercalate_parts]
  exact ((parts_intercalate_eq_iff (parts_ne_nil text)).1 same).2 part member

end Grammar

namespace ClassName

/-! ## Joined bodies of class names -/

theorem partsOf_scheme_append {body : Text} (written : body ≠ []) :
    partsOf (Grammar.scheme ++ body) = .ok (Grammar.parts body) := by
  rw [partsOf, Text.after?_append]
  cases body with
  | nil => exact absurd rfl written
  | cons first rest => rfl

/-- Two bodies of class names, joined by two dashes, have the parts of the first and then those
of the second exactly when the first one ends with an even number of dashes.  Parts that can
each be read alone are, joined by two dashes, read as the same parts exactly when none but the
last ends with a dash. -/
theorem partsOf_joined_iff :
    (∀ first second : Text, first ≠ [] → second ≠ [] →
      ∃ before after joined,
        partsOf (Grammar.scheme ++ first) = .ok before ∧
        partsOf (Grammar.scheme ++ second) = .ok after ∧
        partsOf (Grammar.scheme ++ (first ++ '-' :: '-' :: second)) = .ok joined ∧
        (joined = before ++ after ↔ Even (Text.dashesAtEnd first))) ∧
    (∀ pieces : List Text, pieces ≠ [] →
      (∀ piece ∈ pieces, partsOf (Grammar.scheme ++ piece) = .ok [piece]) →
      (partsOf (Grammar.scheme ++ List.intercalate ['-', '-'] pieces) = .ok pieces ↔
        ∀ piece ∈ pieces.dropLast, piece.getLast? ≠ some '-')) := by
  constructor
  · intro first second firstWritten secondWritten
    have written : first ++ '-' :: '-' :: second ≠ [] := by simp
    exact ⟨_, _, _, partsOf_scheme_append firstWritten, partsOf_scheme_append secondWritten,
      partsOf_scheme_append written, Grammar.parts_joined_iff first second⟩
  · intro pieces nonempty accepted
    have single : ∀ piece ∈ pieces, piece ≠ [] ∧ Grammar.parts piece = [piece] := by
      intro piece member
      have alone := accepted piece member
      have written : piece ≠ [] := by
        rintro rfl
        cases alone
      rw [partsOf_scheme_append written] at alone
      exact ⟨written, Except.ok.inj alone⟩
    have written : List.intercalate ['-', '-'] pieces ≠ [] := by
      cases pieces with
      | nil => exact absurd rfl nonempty
      | cons first others =>
          have firstWritten := (single first List.mem_cons_self).1
          cases others with
          | nil => simpa using firstWritten
          | cons second others => simp [List.intercalate_cons_cons]
    rw [partsOf_scheme_append written, Except.ok.injEq]
    exact Grammar.parts_intercalate_iff nonempty fun piece member => (single piece member).2

/-- What stands before an element: the part that ends with a dash comes last. -/
theorem partsOf_joined_iff_before :
    (∃ before after joined,
      partsOf "cssf--tar-pe-before".toList = .ok before ∧
      partsOf "cssf--content_str-".toList = .ok after ∧
      partsOf "cssf--tar-pe-before--content_str-".toList = .ok joined ∧
      (joined = before ++ after ↔ Even (Text.dashesAtEnd "tar-pe-before".toList))) ∧
    partsOf "cssf--tar-pe-before--content_str-".toList =
      .ok ["tar-pe-before".toList, "content_str-".toList] := by
  have accepted : ∀ piece ∈ ["tar-pe-before".toList, "content_str-".toList],
      partsOf (Grammar.scheme ++ piece) = .ok [piece] := by decide
  exact
    ⟨partsOf_joined_iff.1 "tar-pe-before".toList "content_str-".toList (by decide) (by decide),
      (partsOf_joined_iff.2 _ (List.cons_ne_nil _ _) accepted).2 (by decide)⟩

/-- A part that ends with a dash loses it in front of another part.  No way of cutting could
give it back: two other parts that can be read alone are joined to the same class name. -/
theorem partsOf_joined_ne :
    let joined := Grammar.scheme ++ ("content_str-".toList ++ '-' :: '-' :: "c_red".toList)
    partsOf "cssf--content_str-".toList = .ok ["content_str-".toList] ∧
    partsOf "cssf--c_red".toList = .ok ["c_red".toList] ∧
    partsOf joined ≠ .ok ["content_str-".toList, "c_red".toList] ∧
    partsOf "cssf--content_str".toList = .ok ["content_str".toList] ∧
    partsOf "cssf---c_red".toList = .ok ["-c_red".toList] ∧
    joined = Grammar.scheme ++ ("content_str".toList ++ '-' :: '-' :: "-c_red".toList) ∧
    partsOf joined = .ok ["content_str".toList, "-c_red".toList] := by
  decide

end ClassName

end AtomicCss
