import AtomicCss.Lexicon.Longest
import Mathlib.Data.List.Basic

/-!
Contract: the longest of the candidates that start one text.

Owns:
- the longest text of a kind, in characters and in bytes;
- that candidates with the same text being the same leave one choice, whatever their order.

Does not own: which texts are candidates.

## Why there are no ties

Two texts that start the same text are equal or one of them is longer.  So candidates that are
equally long have the same text, and are one candidate when the text tells candidates apart.
-/

namespace AtomicCss

universe u

/-! ## Sizes -/

namespace Text

theorem byteSize_append (first second : Text) :
    byteSize (first ++ second) = byteSize first + byteSize second := by
  induction first with
  | nil => simp [byteSize]
  | cons character rest inductionHypothesis =>
      rw [List.cons_append, byteSize, byteSize, inductionHypothesis, Nat.add_assoc]

theorem byteSize_pos {text : Text} (written : text ≠ []) : 0 < byteSize text := by
  obtain ⟨character, rest, rfl⟩ := List.exists_cons_of_ne_nil written
  have wide := character.utf8Size_pos
  rw [byteSize]
  omega

/-- Of two different texts that start the same text the one that is not longer is shorter, in
characters and in bytes. -/
theorem shorter_of_prefix
    {shorter longer whole : Text}
    (short : shorter <+: whole)
    (long : longer <+: whole)
    (bound : shorter.length ≤ longer.length)
    (different : shorter ≠ longer) :
    shorter.length < longer.length ∧ byteSize shorter < byteSize longer := by
  obtain ⟨rest, rfl⟩ := List.prefix_of_prefix_length_le short long bound
  have written : rest ≠ [] := by
    rintro rfl
    exact different (List.append_nil shorter).symm
  have characters := List.length_pos_iff.2 written
  have bytes := byteSize_pos written
  rw [List.length_append, byteSize_append]
  constructor <;> omega

end Text

/-- A text of a kind that every other text of the kind is shorter than, in characters and in
bytes. -/
structure IsLongest (kind : Text → Prop) (text : Text) : Prop where
  of_kind : kind text
  longest :
    ∀ other, kind other → other ≠ text →
      other.length < text.length ∧ Text.byteSize other < Text.byteSize text

/-! ## The choice -/

section Choice

variable {α : Type u} {text : α → Text} {candidates : List α}

/-- There is no choice exactly when there is no text to choose from. -/
theorem longest?_eq_none_iff_no_text :
    longest? text candidates = none ↔
      ∀ front, ¬ ∃ candidate ∈ candidates, text candidate = front := by
  rw [longest?_eq_none_iff, List.eq_nil_iff_forall_not_mem]
  constructor
  · rintro none front ⟨candidate, member, -⟩
    exact none candidate member
  · intro none candidate member
    exact none (text candidate) ⟨candidate, member, rfl⟩

variable {whole : Text} (starts : ∀ candidate ∈ candidates, text candidate <+: whole)

include starts

/-- What is chosen is the longest. -/
theorem isLongest_of_longest?
    {best : α}
    (chosen : longest? text candidates = some best) :
    IsLongest (fun front => ∃ candidate ∈ candidates, text candidate = front) (text best) := by
  have member := mem_of_longest? chosen
  refine ⟨⟨best, member, rfl⟩, ?_⟩
  rintro _ ⟨other, candidate, rfl⟩ different
  apply Text.shorter_of_prefix (starts other candidate) (starts best member)
  · exact length_le_of_longest? chosen candidate
  · exact different

/-- The longest is chosen, when candidates with the same text are the same. -/
theorem longest?_eq_some_iff
    (apart : ∀ one ∈ candidates, ∀ other ∈ candidates, text one = text other → one = other)
    {best : α} :
    longest? text candidates = some best ↔
      best ∈ candidates ∧
        IsLongest (fun front => ∃ candidate ∈ candidates, text candidate = front) (text best) := by
  constructor
  · intro chosen
    exact ⟨mem_of_longest? chosen, isLongest_of_longest? starts chosen⟩
  · rintro ⟨member, longest⟩
    cases chosen : longest? text candidates with
    | none =>
        rw [longest?_eq_none_iff] at chosen
        rw [chosen] at member
        cases member
    | some found =>
        have inside := mem_of_longest? chosen
        have bound := length_le_of_longest? chosen member
        by_cases same : text found = text best
        · rw [apart found inside best member same]
        · have shorter := (longest.longest (text found) ⟨found, inside, rfl⟩ same).1
          omega

end Choice

end AtomicCss
