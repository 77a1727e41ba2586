import AtomicCss.Text.Basic

/-!
Contract: the longest of several candidates.

Owns: the choice, by the length of a text that belongs to each candidate, and
the facts that the choice is a candidate and no candidate is longer.

Does not own: where candidates come from.
-/

namespace AtomicCss

universe u

/-- The candidate with the longest text.  Of equally long ones the last. -/
def longest? {α : Type u} (text : α → Text) : List α → Option α
  | [] => none
  | candidate :: others =>
      match longest? text others with
      | none => some candidate
      | some best =>
          if (text best).length < (text candidate).length then some candidate else some best

theorem longest?_eq_none_iff {α : Type u} {text : α → Text} {candidates : List α} :
    longest? text candidates = none ↔ candidates = [] := by
  cases candidates with
  | nil => simp [longest?]
  | cons candidate others =>
      simp only [longest?]
      split
      · simp
      · split <;> simp

theorem mem_of_longest? {α : Type u} {text : α → Text} {candidates : List α} {best : α}
    (chosen : longest? text candidates = some best) :
    best ∈ candidates := by
  induction candidates generalizing best with
  | nil => simp [longest?] at chosen
  | cons candidate others inductionHypothesis =>
      simp only [longest?] at chosen
      split at chosen
      · simp_all
      · rename_i rest restChosen
        split at chosen
        · simp_all
        · cases chosen
          exact List.mem_cons_of_mem _ (inductionHypothesis restChosen)

theorem length_le_of_longest? {α : Type u} {text : α → Text} {candidates : List α}
    {best : α}
    (chosen : longest? text candidates = some best)
    {candidate : α}
    (member : candidate ∈ candidates) :
    (text candidate).length ≤ (text best).length := by
  induction candidates generalizing best with
  | nil => simp at member
  | cons first others inductionHypothesis =>
      simp only [longest?] at chosen
      split at chosen
      · rename_i noOthers
        rw [longest?_eq_none_iff] at noOthers
        subst noOthers
        cases chosen
        simp_all
      · rename_i rest restChosen
        rcases List.mem_cons.1 member with rfl | later
        · split at chosen <;> cases chosen <;> omega
        · have bound := inductionHypothesis restChosen later
          split at chosen <;> cases chosen <;> omega

end AtomicCss
