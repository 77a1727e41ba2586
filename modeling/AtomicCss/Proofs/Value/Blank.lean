import AtomicCss.Proofs.Value.Ceiling
import AtomicCss.Proofs.Value.Chunks
import AtomicCss.Proofs.Value.Reading

/-!
Contract: values with nothing written in them.

Owns:
- the text that a stream of empty tokens comes to;
- the empty token as a value of its own;
- root values that are named inside a value, whatever value they are given.

Does not own: what a part makes of such values.

## Why empty tokens are not nothing

A stream puts a space between two values also when they are empty.  So one empty token comes to
the empty text, and more of them come to spaces.
-/

namespace AtomicCss

theorem Piece.words_replicate (count : Nat) :
    words (List.replicate count ⟨[], false⟩) = List.replicate count [] := by
  induction count with
  | zero => rfl
  | succ count inductionHypothesis =>
      cases count with
      | zero => rfl
      | succ count =>
          rw [List.replicate_succ, words, inductionHypothesis]
          rfl

namespace Lexicon

variable {lexicon : Lexicon}

/-! ## Empty tokens -/

theorem span_nil (words : lexicon.markers.Words) (following : Cursor) :
    lexicon.span [] following = 0 := by
  simp only [span, Registry.markerAt?_nil words]

theorem readChunk_empty : lexicon.readChunk ⟨.value, []⟩ = .text [] := by
  rw [readChunk, read, if_pos rfl]

theorem consume?_empty (words : lexicon.markers.Words) (position : Nat) (rest : List Text) :
    lexicon.consume? ⟨position, [] :: rest⟩ = some (⟨.value, []⟩, ⟨position + 1, rest⟩) := by
  have counted : Cursor.Addressable ⟨position + 1, rest⟩ 0 := Or.inl (Nat.zero_le _)
  rw [consume?_cons, span_nil words, if_pos counted, Nat.zero_min]
  rfl

theorem chunks_replicate (words : lexicon.markers.Words) (position count : Nat) :
    lexicon.chunks ⟨position, List.replicate count []⟩ = List.replicate count ⟨.value, []⟩ := by
  induction count generalizing position with
  | zero => exact chunks_nil position
  | succ count inductionHypothesis =>
      rw [List.replicate_succ, List.replicate_succ, ← inductionHypothesis (position + 1)]
      exact chunks_of_nextChunk? (consume?_empty words position _)

/-! ## Root values inside values -/

/-- A token that names a root value takes the next token as its value, also when it is empty. -/
theorem consume?_rootValue
    {marker token : Text}
    (marked : lexicon.markers.markerAt? none token = some (marker, .rootValue))
    (value : Text)
    (position : Nat)
    (rest : List Text) :
    lexicon.consume? ⟨position, token :: value :: rest⟩ =
      some (⟨.value, token ++ Grammar.valueSeparator :: value⟩, ⟨position + 2, rest⟩) := by
  have one : lexicon.span token (Cursor.ofTokens (value :: rest)) = 1 := by
    simp only [span, marked]
  have enough : 1 ≤ (value :: rest).length := Nat.succ_le_succ (Nat.zero_le _)
  have counted : Cursor.Addressable ⟨position + 1, value :: rest⟩ 1 := Or.inl enough
  rw [consume?_cons, one, if_pos counted, Nat.min_eq_left enough, List.take_succ_cons,
    List.take_zero, Text.join_cons token (List.cons_ne_nil value [])]
  simp [Text.join]

end Lexicon

theorem Value.evalAll_replicate_text
    (ambient : Ambient)
    (css : Text)
    (count : Nat)
    (state : Expansion) :
    evalAll ambient (List.replicate count (.text css)) state =
      (List.replicate count ⟨css, false⟩, state) := by
  induction count with
  | zero => rfl
  | succ count inductionHypothesis =>
      rw [List.replicate_succ, evalAll]
      show (_ :: (evalAll ambient (List.replicate count (.text css)) state).1,
        (evalAll ambient (List.replicate count (.text css)) state).2) = _
      rw [inductionHypothesis]
      rfl

namespace Environment

variable {environment : Environment}

/-- A stream of empty tokens comes to the spaces between them. -/
theorem resolveStream_replicate
    (words : environment.lexicon.markers.Words)
    (position count : Nat)
    (state : Expansion) :
    environment.resolveStream ⟨position, List.replicate count []⟩ state =
      (List.replicate (count - 1) ' ', state) := by
  have values : environment.lexicon.readStream ⟨position, List.replicate count []⟩ =
      List.replicate count (.text []) := by
    rw [Lexicon.readStream, Lexicon.chunks_replicate words, List.map_replicate,
      Lexicon.readChunk_empty]
  have text : Piece.stream (List.replicate count ⟨[], false⟩) =
      List.replicate (count - 1) ' ' := by
    rw [Piece.stream, Piece.words_replicate]
    exact Text.join_replicate count
  rw [resolveStream, values, Value.evalStream, Value.evalAll_replicate_text]
  exact congrArg (·, state) text

/-- So does a text of separators alone. -/
theorem resolveText_replicate
    (words : environment.lexicon.markers.Words)
    (count : Nat)
    (state : Expansion) :
    environment.resolveText (List.replicate count Grammar.valueSeparator) state =
      (List.replicate count ' ', state) := by
  cases count with
  | zero => exact resolveStream_replicate words 0 0 state
  | succ count =>
      have tokens : Cursor.tokens Grammar.valueSeparator
          (List.replicate (count + 1) Grammar.valueSeparator) =
            List.replicate (count + 2) [] := by
        rw [Cursor.tokens, if_neg (by simp), Text.split_replicate]
      rw [resolveText, Cursor.ofText, tokens]
      exact resolveStream_replicate words 0 (count + 2) state

theorem consume?_empty
    (words : environment.lexicon.markers.Words)
    (position : Nat)
    (rest : List Text)
    (state : Expansion) :
    environment.consume? ⟨position, [] :: rest⟩ state =
      some ⟨[], ⟨position + 1, rest⟩, state⟩ := by
  rw [consume?_eq, Lexicon.consume?_empty words, Option.map_some]
  simp only [Lexicon.readChunk_empty]
  rfl

/-- A token that names a root value records the next one under its name, whether anything stands
in the name and in the value or not. -/
theorem consume?_rootValue
    (words : environment.lexicon.markers.Words)
    {marker name : Text}
    (marked :
      environment.lexicon.markers.markerAt? none (marker ++ name) = some (marker, .rootValue))
    (single : Grammar.valueSeparator ∉ name)
    (value : Text)
    (position : Nat)
    (rest : List Text)
    (state : Expansion) :
    let resolved := environment.resolveText value state
    environment.consume? ⟨position, (marker ++ name) :: value :: rest⟩ state =
      some
        ⟨Lexicon.reference name, ⟨position + 2, rest⟩, resolved.2.record name resolved.1⟩ := by
  intro resolved
  have read : environment.lexicon.readChunk
      ⟨.value, (marker ++ name) ++ Grammar.valueSeparator :: value⟩ =
        .rootValue name (environment.lexicon.readSequence value) := by
    have written : (marker ++ name) ++ Grammar.valueSeparator :: value ≠ [] := by simp
    have chunkMarked : environment.lexicon.markers.markerAt? none
        ((marker ++ name) ++ Grammar.valueSeparator :: value) = some (marker, .rootValue) := by
      rw [Registry.markerAt?_append_cons words, marked]
    have rest : ((marker ++ name) ++ Grammar.valueSeparator :: value).drop marker.length =
        name ++ Grammar.valueSeparator :: value := by
      rw [List.append_assoc, List.drop_left]
    have given : Text.beyond? Grammar.valueSeparator
        (((marker ++ name) ++ Grammar.valueSeparator :: value).drop marker.length) =
          some value := by
      rw [rest, Text.beyond?_append_cons single]
    rw [Lexicon.readChunk, Lexicon.read_of_rootValue written chunkMarked given, rest,
      Text.before_append_cons single]
  rw [consume?_eq, Lexicon.consume?_rootValue marked, Option.map_some]
  simp only [read]
  rfl

/-- Without a next token it is a reference to the name and no more. -/
theorem consume?_loneRootValue
    (words : environment.lexicon.markers.Words)
    {marker name : Text}
    (marked :
      environment.lexicon.markers.markerAt? none (marker ++ name) = some (marker, .rootValue))
    (single : Grammar.valueSeparator ∉ name)
    {position : Nat}
    (small : position + 2 < wordLimit)
    (state : Expansion) :
    environment.consume? ⟨position, [marker ++ name]⟩ state =
      some ⟨Lexicon.reference name, ⟨position + 1, []⟩, state⟩ := by
  have one : environment.lexicon.span (marker ++ name) (Cursor.ofTokens []) = 1 := by
    simp only [Lexicon.span, marked]
  have counted : Cursor.Addressable ⟨position + 1, []⟩ 1 := Or.inr small
  have written : marker ++ name ≠ [] := by
    intro none
    rw [none, Registry.markerAt?_nil words] at marked
    cases marked
  have alone : Text.beyond? Grammar.valueSeparator ((marker ++ name).drop marker.length) =
      none := by
    rw [List.drop_left, Text.beyond?_of_not_mem single]
  have read : environment.lexicon.readChunk ⟨.value, marker ++ name⟩ =
      .text (Lexicon.reference name) := by
    rw [Lexicon.readChunk, Lexicon.read_of_loneRootValue written marked alone, List.drop_left,
      Text.before_of_not_mem single]
  have chunk : Text.join Grammar.valueSeparator [marker ++ name] = marker ++ name := by
    simp [Text.join]
  rw [consume?_eq, Lexicon.consume?_cons, one, if_pos counted, List.take_nil, chunk,
    Option.map_some]
  simp only [read]
  rfl

end Environment

end AtomicCss
