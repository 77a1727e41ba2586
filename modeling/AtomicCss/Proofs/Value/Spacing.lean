import AtomicCss.Proofs.Value.Composition

/-!
Contract: the spaces between the pieces of a text.

Owns:
- the words of pieces without glue;
- the number of words, and the length of a text with glue in it;
- when a space before every piece separates the words.

Does not own: which pieces a stream is resolved to.
-/

namespace AtomicCss

namespace Piece

theorem words_of_apart
    {pieces : List Piece}
    (apart : ∀ piece ∈ pieces, piece.glue = false) :
    words pieces = pieces.map Piece.text := by
  induction pieces with
  | nil => rfl
  | cons piece others inductionHypothesis =>
      have rest := inductionHypothesis fun other member =>
        apart other (List.mem_cons_of_mem _ member)
      cases others with
      | nil => rfl
      | cons next more =>
          have pieceApart : piece.glue = false := apart piece List.mem_cons_self
          have nextApart : next.glue = false := apart next (by simp)
          rw [List.map_cons] at rest
          rw [words_cons rest, pieceApart, List.head?_cons, Option.any_some, nextApart]
          rfl

theorem flatten_words (pieces : List Piece) :
    (words pieces).flatten = pieces.flatMap Piece.text := by
  induction pieces with
  | nil => rfl
  | cons piece others inductionHypothesis =>
      rw [words, List.flatMap_cons, ← inductionHypothesis]
      split
      · rename_i none
        rw [none]
        rfl
      · rename_i word more found
        rw [found]
        split <;> simp

theorem length_words_le (pieces : List Piece) : (words pieces).length ≤ pieces.length := by
  induction pieces with
  | nil => exact Nat.le_refl 0
  | cons piece others inductionHypothesis =>
      rw [words]
      split
      · exact Nat.succ_le_succ (Nat.zero_le _)
      · rename_i word more found
        rw [found, List.length_cons] at inductionHypothesis
        split <;> simp only [List.length_cons] <;> omega

/-- Glue after the first piece makes a word out of several pieces. -/
theorem length_words_lt
    (first : Piece)
    {others : List Piece}
    (attached : ∃ piece ∈ others, piece.glue = true) :
    (words (first :: others)).length ≤ others.length := by
  induction others generalizing first with
  | nil => simp at attached
  | cons next more inductionHypothesis =>
      have bound := length_words_le (next :: more)
      obtain ⟨word, rest, found⟩ :=
        List.exists_cons_of_ne_nil (words_ne_nil (List.cons_ne_nil next more))
      rw [words_cons found, List.head?_cons, Option.any_some]
      rw [found] at bound
      cases glued : next.glue with
      | true =>
          rw [Bool.or_true, if_pos rfl]
          exact bound
      | false =>
          have later : ∃ piece ∈ more, piece.glue = true := by
            obtain ⟨piece, member, glue⟩ := attached
            rcases List.mem_cons.1 member with rfl | inside
            · rw [glued] at glue
              cases glue
            · exact ⟨piece, inside, glue⟩
          have fewer := inductionHypothesis next later
          rw [found] at fewer
          simp only [List.length_cons] at fewer ⊢
          split <;> simp only [List.length_cons] <;> omega

theorem length_stream (pieces : List Piece) :
    (stream pieces).length =
      (pieces.flatMap Piece.text).length + ((words pieces).length - 1) := by
  rw [← flatten_words]
  exact Text.length_join ' ' (words pieces)

theorem length_trailing (pieces : List Piece) :
    (trailing pieces).length = (pieces.flatMap Piece.text).length + pieces.length := by
  induction pieces with
  | nil => rfl
  | cons piece others inductionHypothesis =>
      have rest : (trailing (piece :: others)).length =
          (' ' :: piece.text).length + (trailing others).length := by
        rw [trailing, List.flatMap_cons, List.length_append]
        rfl
      rw [rest, inductionHypothesis, List.flatMap_cons, List.length_append]
      simp only [List.length_cons]
      omega

theorem join_cons_trailing (text : Text) (pieces : List Piece) :
    Text.join ' ' (text :: pieces.map Piece.text) = text ++ trailing pieces := by
  induction pieces generalizing text with
  | nil => simp [Text.join, trailing]
  | cons piece others inductionHypothesis =>
      rw [List.map_cons, Text.join_cons text (List.cons_ne_nil _ _), inductionHypothesis]
      rfl

/-- A space before every piece separates the words exactly when there is no glue.  With glue the
words are fewer, and the text is shorter. -/
theorem stream_cons_eq_iff (text : Text) (pieces : List Piece) :
    text ++ trailing pieces = stream (⟨text, false⟩ :: pieces) ↔
      ∀ piece ∈ pieces, piece.glue = false := by
  constructor
  · intro same piece member
    cases glued : piece.glue with
    | false => rfl
    | true =>
        have fewer := length_words_lt ⟨text, false⟩ ⟨piece, member, glued⟩
        have positive : 0 < pieces.length := List.length_pos_of_mem member
        have lengths := congrArg List.length same
        rw [List.length_append, length_trailing, length_stream, List.flatMap_cons,
          List.length_append] at lengths
        dsimp only at lengths
        omega
  · intro apart
    have words : words (⟨text, false⟩ :: pieces) = text :: pieces.map Piece.text := by
      apply words_of_apart
      intro piece member
      rcases List.mem_cons.1 member with rfl | inside
      · rfl
      · exact apart piece inside
    rw [stream, words, ← join_cons_trailing]
    rfl

end Piece

end AtomicCss
