import AtomicCss.Proofs.Text.Dashes
import AtomicCss.Proofs.Text.Splitting
import Mathlib.Data.List.Basic

/-!
Contract: texts in which a pattern is replaced.

Owns:
- where replacing starts and where it goes on, by what stands at the front of the text;
- replacing on the two sides of a character that the pattern does not have;
- the characters and the dashes of the text that comes out.

Does not own: which pattern is replaced.
-/

namespace AtomicCss.Text

variable {first : Char} {others replacement : Text}

/-! ## Occurrences -/

/-- Induction along a text from one occurrence of a pattern to the next, as they are found from
left to right. -/
theorem occurrence_induction
    (first : Char)
    (others : Text)
    {motive : Text → Prop}
    (nil : motive [])
    (found : ∀ rest, motive rest → motive (first :: (others ++ rest)))
    (kept : ∀ character rest, (character = first → ¬ others <+: rest) → motive rest →
      motive (character :: rest))
    (text : Text) :
    motive text := by
  fun_induction replace first others [] text with
  | case1 => exact nil
  | case2 rest remaining cut inductionHypothesis =>
      rw [after?_eq_some_iff.1 cut]
      exact found remaining inductionHypothesis
  | case3 rest cut inductionHypothesis =>
      refine kept first rest (fun _ present => ?_) inductionHypothesis
      obtain ⟨remaining, same⟩ := present
      rw [after?_eq_some_iff.2 same.symm] at cut
      cases cut
  | case4 character rest other inductionHypothesis =>
      exact kept character rest (fun same => absurd same other) inductionHypothesis

theorem replace_nil : replace first others replacement [] = [] := by
  rw [replace]

theorem replace_found (rest : Text) :
    replace first others replacement (first :: (others ++ rest)) =
      replacement ++ replace first others replacement rest := by
  rw [replace, if_pos rfl]
  split
  · rename_i remaining found
    rw [after?_append] at found
    rw [Option.some.inj found]
  · rename_i none
    rw [after?_append] at none
    cases none

theorem replace_kept
    {character : Char}
    {rest : Text}
    (apart : character = first → ¬ others <+: rest) :
    replace first others replacement (character :: rest) =
      character :: replace first others replacement rest := by
  rw [replace]
  split
  · rename_i same
    split
    · rename_i remaining found
      exact absurd ⟨remaining, (after?_eq_some_iff.1 found).symm⟩ (apart same)
    · rfl
  · rfl

/-- A text without the first character of the pattern stays as it is. -/
theorem replace_append_of_not_mem {front : Text} (absent : first ∉ front) (rest : Text) :
    replace first others replacement (front ++ rest) =
      front ++ replace first others replacement rest := by
  induction front with
  | nil => rfl
  | cons character front inductionHypothesis =>
      rw [List.mem_cons, not_or] at absent
      have kept (same : character = first) : ¬ others <+: front ++ rest :=
        absurd same.symm absent.1
      rw [List.cons_append, replace_kept kept, inductionHypothesis absent.2, List.cons_append]

/-- No occurrence of the pattern reaches over a character that it does not have. -/
theorem replace_append_cons
    {character : Char}
    (other : character ≠ first)
    (absent : character ∉ others)
    (front rest : Text) :
    replace first others replacement (front ++ character :: rest) =
      replace first others replacement front ++
        character :: replace first others replacement rest := by
  induction front using occurrence_induction first others with
  | nil =>
      rw [replace_nil]
      exact replace_kept fun same => absurd same other
  | found later inductionHypothesis =>
      rw [List.cons_append, List.append_assoc, replace_found, replace_found, inductionHypothesis,
        List.append_assoc]
  | kept next later apart inductionHypothesis =>
      have outside (same : next = first) : ¬ others <+: later ++ character :: rest := by
        rw [prefix_append_cons_iff absent]
        exact apart same
      rw [List.cons_append, replace_kept outside, replace_kept apart, inductionHypothesis,
        List.cons_append]

/-! ## What comes out -/

/-- A character that the pattern does not have comes from the text, or from the replacement
where the pattern occurs. -/
theorem mem_replace_iff
    {character : Char}
    (other : character ≠ first)
    (absent : character ∉ others)
    (text : Text) :
    character ∈ replace first others replacement text ↔
      character ∈ text ∨ character ∈ replacement ∧ first :: others <:+: text := by
  induction text using occurrence_induction first others with
  | nil => simp [replace_nil]
  | found rest inductionHypothesis =>
      have occurs : first :: others <:+: first :: (others ++ rest) := ⟨[], rest, rfl⟩
      rw [replace_found, List.mem_append, inductionHypothesis]
      simp only [List.mem_cons, List.mem_append, other, absent, occurs, false_or, and_true]
      tauto
  | kept next rest apart inductionHypothesis =>
      have later : first :: others <:+: next :: rest ↔ first :: others <:+: rest := by
        rw [List.infix_cons_iff, List.cons_prefix_cons]
        exact or_iff_right fun front => apart front.1.symm front.2
      rw [replace_kept apart, List.mem_cons, List.mem_cons, inductionHypothesis, later, or_assoc]

/-- A word: dashes stand only between other characters, and only one at a time. -/
structure IsWord (text : Text) : Prop where
  written : text ≠ []
  starts : text.head? ≠ some '-'
  ends : text.getLast? ≠ some '-'
  apart : DashesApart text

instance (text : Text) : Decidable (IsWord text) :=
  decidable_of_iff
    (text ≠ [] ∧ text.head? ≠ some '-' ∧ text.getLast? ≠ some '-' ∧ DashesApart text)
    ⟨fun ⟨written, starts, ends, apart⟩ => ⟨written, starts, ends, apart⟩,
      fun word => ⟨word.written, word.starts, word.ends, word.apart⟩⟩

section Words

variable {text : Text} (word : IsWord replacement)

include word

theorem replace_eq_nil_iff : replace first others replacement text = [] ↔ text = [] := by
  induction text using occurrence_induction first others with
  | nil => simp [replace_nil]
  | found rest _ => simp [replace_found, word.written]
  | kept character rest apart _ => simp [replace_kept apart]

/-- Where a word is put in for a pattern, no further text starts with a dash. -/
theorem head?_of_replace (dash : (replace first others replacement text).head? = some '-') :
    text.head? = some '-' := by
  induction text using occurrence_induction first others with
  | nil =>
      rw [replace_nil] at dash
      cases dash
  | found rest _ =>
      rw [replace_found, List.head?_append_of_ne_nil _ word.written] at dash
      exact absurd dash word.starts
  | kept character rest apart _ =>
      rw [replace_kept apart] at dash
      simpa using dash

/-- No further text ends with a dash either. -/
theorem getLast?_of_replace
    (dash : (replace first others replacement text).getLast? = some '-') :
    text.getLast? = some '-' := by
  induction text using occurrence_induction first others with
  | nil =>
      rw [replace_nil] at dash
      cases dash
  | found rest inductionHypothesis =>
      rw [replace_found, List.getLast?_append, Option.or_eq_some_iff] at dash
      have later := inductionHypothesis (dash.resolve_right fun last => word.ends last.2)
      simp [List.getLast?_cons, List.getLast?_append, later]
  | kept character rest apart inductionHypothesis =>
      rw [replace_kept apart] at dash
      cases rest with
      | nil =>
          rw [replace_nil] at dash
          exact dash
      | cons next rest =>
          have written : replace first others replacement (next :: rest) ≠ [] := by
            rw [ne_eq, replace_eq_nil_iff word]
            exact List.cons_ne_nil next rest
          rw [List.getLast?_cons_of_ne_nil written] at dash
          rw [List.getLast?_cons_cons]
          exact inductionHypothesis dash

/-- Dashes that stand apart still do. -/
theorem DashesApart.replace (apart : DashesApart text) :
    DashesApart (Text.replace first others replacement text) := by
  induction text using occurrence_induction first others with
  | nil =>
      rw [replace_nil]
      exact apart
  | found rest inductionHypothesis =>
      have later : rest <:+: first :: (others ++ rest) := ⟨first :: others, [], by simp⟩
      rw [replace_found]
      exact word.apart.append word.ends (inductionHypothesis (apart.of_infix later))
  | kept character rest outside inductionHypothesis =>
      rw [cons_iff] at apart
      rw [replace_kept outside]
      refine cons_iff.2 ⟨inductionHypothesis apart.1, ?_⟩
      exact fun dashes => apart.2 ⟨dashes.1, head?_of_replace word dashes.2⟩

end Words

end AtomicCss.Text
