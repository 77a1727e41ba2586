import AtomicCss.Grammar

/-!
Contract: texts in which no two dashes stand next to each other.

Owns:
- the property, its passage to parts of a text and to texts put together;
- the parts of a class name, which have it;
- what follows the first two dashes of a text.

Does not own: what the parts of a class name mean.
-/

namespace AtomicCss.Text

/-! ## Dashes apart -/

/-- No two dashes stand next to each other. -/
def DashesApart (text : Text) : Prop :=
  ¬ ['-', '-'] <:+: text

instance (text : Text) : Decidable (DashesApart text) :=
  inferInstanceAs (Decidable (¬ _))

namespace DashesApart

theorem of_infix {piece text : Text} (apart : DashesApart text) (inside : piece <:+: text) :
    DashesApart piece :=
  fun dashes => apart (dashes.trans inside)

theorem nil : DashesApart [] := by
  intro dashes
  have bound := dashes.length_le
  simp at bound

theorem cons_iff {character : Char} {text : Text} :
    DashesApart (character :: text) ↔
      DashesApart text ∧ ¬ (character = '-' ∧ text.head? = some '-') := by
  unfold DashesApart
  rw [List.infix_cons_iff, not_or, and_comm]
  cases text with
  | nil => simp
  | cons second rest =>
      have starts : ['-', '-'] <+: character :: second :: rest ↔
          character = '-' ∧ second = '-' := by
        simp [List.cons_prefix_cons, eq_comm]
      rw [starts]
      simp

/-- A character that is no dash keeps the dashes on its two sides apart. -/
theorem append_cons
    {first second : Text}
    {character : Char}
    (apart : DashesApart first)
    (other : character ≠ '-')
    (rest : DashesApart second) :
    DashesApart (first ++ character :: second) := by
  induction first with
  | nil => exact cons_iff.2 ⟨rest, fun dash => other dash.1⟩
  | cons head tail inductionHypothesis =>
      rw [cons_iff] at apart
      refine cons_iff.2 ⟨inductionHypothesis apart.1, ?_⟩
      rintro ⟨dash, next⟩
      cases tail with
      | nil => exact other (by simpa using next)
      | cons second others => exact apart.2 ⟨dash, by simpa using next⟩

/-- Texts put together keep their dashes apart when the first one does not end with a dash. -/
theorem append
    {first second : Text}
    (apart : DashesApart first)
    (other : first.getLast? ≠ some '-')
    (rest : DashesApart second) :
    DashesApart (first ++ second) := by
  induction first with
  | nil => exact rest
  | cons head tail inductionHypothesis =>
      rw [cons_iff] at apart
      cases tail with
      | nil => exact cons_iff.2 ⟨rest, fun dash => other (by simp [dash.1])⟩
      | cons second others =>
          refine cons_iff.2 ⟨inductionHypothesis apart.1 (by simpa using other), ?_⟩
          exact fun dash => apart.2 ⟨dash.1, by simpa using dash.2⟩

end DashesApart

/-! ## The first two dashes -/

/-- What follows the first two dashes in a row. -/
def afterDashes : Text → Text
  | [] => []
  | '-' :: '-' :: rest => rest
  | _ :: rest => afterDashes rest

/-- Two dashes are the first ones when neither the text before them nor its end with
the first of them has two in a row. -/
theorem afterDashes_append
    {front : Text}
    (rest : Text)
    (apart : DashesApart (front ++ ['-'])) :
    afterDashes (front ++ '-' :: '-' :: rest) = rest := by
  induction front with
  | nil => rfl
  | cons character front inductionHypothesis =>
      rw [List.cons_append, DashesApart.cons_iff] at apart
      have later := inductionHypothesis apart.1
      rw [List.cons_append]
      by_cases dash : character = '-'
      · subst dash
        cases front with
        | nil => simp at apart
        | cons second others =>
            have other : second ≠ '-' := by
              intro same
              exact apart.2 ⟨rfl, by simp [same]⟩
            rw [List.cons_append] at later ⊢
            rw [afterDashes]
            · exact later
            · intro tail _ shape
              exact other (List.cons.inj shape).1
      · rw [afterDashes]
        · exact later
        · intro tail shape
          exact absurd shape dash

end AtomicCss.Text

namespace AtomicCss.Grammar

open Text

/-! ## Parts of a class name -/

theorem parts_ne_nil (text : Text) : parts text ≠ [] := by
  fun_cases parts text <;> simp_all

/-- The first part of a text is at its front. -/
theorem prefix_of_parts
    {text first : Text}
    {others : List Text}
    (split : parts text = first :: others) :
    first <+: text := by
  fun_induction parts text generalizing first others with
  | case1 => simp_all
  | case2 rest inductionHypothesis => simp_all
  | case3 character rest notDashes none inductionHypothesis =>
      exact absurd none (parts_ne_nil rest)
  | case4 character rest notDashes head tail found inductionHypothesis =>
      simp only [List.cons.injEq] at split
      rw [← split.1]
      exact (List.prefix_cons_inj character).2 (inductionHypothesis found)

/-- The parts of a class name do not have two dashes in a row. -/
theorem dashesApart_of_mem_parts {text part : Text} (member : part ∈ parts text) :
    DashesApart part := by
  fun_induction parts text generalizing part with
  | case1 =>
      rw [List.mem_singleton.1 member]
      exact DashesApart.nil
  | case2 rest inductionHypothesis =>
      rcases List.mem_cons.1 member with rfl | later
      · exact DashesApart.nil
      · exact inductionHypothesis later
  | case3 character rest notDashes none inductionHypothesis =>
      exact absurd none (parts_ne_nil rest)
  | case4 character rest notDashes head tail found inductionHypothesis =>
      rcases List.mem_cons.1 member with rfl | later
      · refine DashesApart.cons_iff.2 ⟨inductionHypothesis (by simp [found]), ?_⟩
        -- A dash at the start of the part would be the second of two in the text.
        rintro ⟨rfl, next⟩
        obtain ⟨after, rfl⟩ := prefix_of_parts found
        cases head with
        | nil => simp at next
        | cons second others =>
            simp only [List.head?_cons, Option.some.injEq] at next
            exact notDashes _ rfl (congrArg (· :: _) next)
      · exact inductionHypothesis (by simp [found, later])

end AtomicCss.Grammar
