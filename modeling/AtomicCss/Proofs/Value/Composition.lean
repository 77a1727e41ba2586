import AtomicCss.Proofs.Value.Ceiling
import AtomicCss.Proofs.Value.Chunks
import AtomicCss.Proofs.Value.Reading

/-!
Contract: the text of a stream that continues a closed one.

Owns:
- the words of two lists of pieces, and the values of two lists of values;
- which values of a stream attach to their neighbours;
- streams of tokens that are put together.

Does not own: which tokens a value takes.

## Why the second text is looked at from where the first one ends

A closed stream takes none of the tokens that follow it, so the values of two texts are those of
the one and then those of the other.  The only thing that the first text changes for the second
is the place that its tokens have.  That shows when a template asks for so many tokens that its
last one would have no 64-bit place: then the stream has no value at all.
-/

namespace AtomicCss

/-! ## Pieces -/

namespace Piece

theorem words_ne_nil {pieces : List Piece} (nonempty : pieces ≠ []) : words pieces ≠ [] := by
  cases pieces with
  | nil => exact absurd rfl nonempty
  | cons piece rest =>
      rw [words]
      split
      · exact List.cons_ne_nil _ _
      · split <;> exact List.cons_ne_nil _ _

theorem words_cons
    {piece : Piece}
    {rest : List Piece}
    {word : Text}
    {others : List Text}
    (found : words rest = word :: others) :
    words (piece :: rest) =
      if piece.glue || rest.head?.any Piece.glue then
        (piece.text ++ word) :: others
      else
        piece.text :: word :: others := by
  rw [words, found]

/-- No word spans two pieces next to each other that are both not glue. -/
theorem words_append
    {first second : List Piece}
    (secondWritten : second ≠ [])
    (lastApart : ∀ piece ∈ first.getLast?, piece.glue = false)
    (nextApart : ∀ piece ∈ second.head?, piece.glue = false) :
    words (first ++ second) = words first ++ words second := by
  induction first with
  | nil => rfl
  | cons piece rest inductionHypothesis =>
      cases rest with
      | nil =>
          obtain ⟨word, more, found⟩ :=
            List.exists_cons_of_ne_nil (words_ne_nil secondWritten)
          have pieceApart : piece.glue = false := lastApart piece rfl
          have apart : second.head?.any Piece.glue = false := by
            cases second with
            | nil => rfl
            | cons next others => exact nextApart next rfl
          rw [List.cons_append, List.nil_append, words_cons found, pieceApart, apart, found]
          rfl
      | cons middle others =>
          have later := inductionHypothesis
            fun last member => lastApart last (by rwa [List.getLast?_cons_cons])
          obtain ⟨word, more, found⟩ :=
            List.exists_cons_of_ne_nil (words_ne_nil (List.cons_ne_nil middle others))
          rw [found] at later
          have front : (middle :: others ++ second).head? = (middle :: others).head? := rfl
          rw [List.cons_append, words_cons later, words_cons found, front]
          split <;> rfl

theorem stream_append
    {first second : List Piece}
    (firstWritten : first ≠ [])
    (secondWritten : second ≠ [])
    (lastApart : ∀ piece ∈ first.getLast?, piece.glue = false)
    (nextApart : ∀ piece ∈ second.head?, piece.glue = false) :
    stream (first ++ second) = stream first ++ ' ' :: stream second := by
  rw [stream, words_append secondWritten lastApart nextApart]
  exact Text.join_append (words_ne_nil firstWritten) (words_ne_nil secondWritten)

end Piece

/-! ## Values -/

namespace Value

variable {ambient : Ambient}

theorem evalAll_append (first second : List Value) (state : Expansion) :
    evalAll ambient (first ++ second) state =
      let left := evalAll ambient first state
      let right := evalAll ambient second left.2
      (left.1 ++ right.1, right.2) := by
  induction first generalizing state with
  | nil => rfl
  | cons value others inductionHypothesis =>
      rw [List.cons_append, evalAll, evalAll, inductionHypothesis]
      rfl

/-- A piece is glue when its value is. -/
theorem map_glue_evalAll (ambient : Ambient) (values : List Value) (state : Expansion) :
    (evalAll ambient values state).1.map Piece.glue = values.map isGlue := by
  induction values generalizing state with
  | nil => rfl
  | cons value others inductionHypothesis =>
      rw [evalAll, List.map_cons, List.map_cons, inductionHypothesis]

theorem evalAll_ne_nil {values : List Value} (nonempty : values ≠ []) (state : Expansion) :
    (evalAll ambient values state).1 ≠ [] := by
  intro none
  have glues := map_glue_evalAll ambient values state
  rw [none, List.map_nil] at glues
  exact nonempty (List.map_eq_nil_iff.1 glues.symm)

theorem evalStream_append
    {first second : List Value}
    (firstWritten : first ≠ [])
    (secondWritten : second ≠ [])
    (lastApart : ∀ value ∈ first.getLast?, value.isGlue = false)
    (nextApart : ∀ value ∈ second.head?, value.isGlue = false)
    (state : Expansion) :
    evalStream ambient (first ++ second) state =
      let left := evalStream ambient first state
      let right := evalStream ambient second left.2
      (left.1 ++ ' ' :: right.1, right.2) := by
  simp only [evalStream, evalAll_append]
  rw [Piece.stream_append (evalAll_ne_nil firstWritten _) (evalAll_ne_nil secondWritten _)]
  · intro piece last
    have glues := congrArg List.getLast? (map_glue_evalAll ambient first state)
    rw [List.getLast?_map, List.getLast?_map, last] at glues
    obtain ⟨value, member, same⟩ := Option.map_eq_some_iff.1 glues.symm
    rw [← same]
    exact lastApart value member
  · intro piece next
    have glues := congrArg List.head?
      (map_glue_evalAll ambient second (evalAll ambient first state).2)
    rw [List.head?_map, List.head?_map, next] at glues
    obtain ⟨value, member, same⟩ := Option.map_eq_some_iff.1 glues.symm
    rw [← same]
    exact nextApart value member

/-- Values of which one is a template whose arguments cannot be counted report it. -/
theorem outOfRange_mem_notices
    {values : List Value}
    (member : .outOfRange ∈ values)
    (state : Expansion) :
    .outOfRange state.origin ∈ (evalAll ambient values state).2.notices := by
  obtain ⟨before, after, rfl⟩ := List.append_of_mem member
  let reached := (evalAll ambient before state).2
  let reported := reached.report (.outOfRange reached.origin)
  have origin : reached.origin = state.origin :=
    ((uniform_evalAll ambient before).balanced state).origin
  have kept : reported.notices <+: (evalAll ambient after reported).2.notices :=
    ((uniform_evalAll ambient after).balanced reported).notices
  rw [evalAll_append]
  show _ ∈ (evalAll ambient after reported).2.notices
  rw [← origin]
  exact kept.subset (List.mem_append_right _ (List.mem_singleton_self _))

end Value

/-! ## Values of tokens -/

namespace Lexicon

variable {lexicon : Lexicon}

theorem isGlue_read (quoted : Bool) (token : Text) :
    (lexicon.read quoted token).isGlue = false := by
  rw [read]
  split
  · rfl
  · split
    · rfl
    · rename_i marker kind found
      cases kind <;> dsimp only <;> (try rfl) <;> split <;> (try rfl)
      split <;> rfl

theorem isGlue_readChunk {chunk : Chunk} (plain : chunk.kind ≠ .glue) :
    (lexicon.readChunk chunk).isGlue = false := by
  unfold readChunk
  split
  · contradiction
  · rfl
  · exact isGlue_read false _

theorem isGlue_of_getLast?_readStream
    {tokens : List Text}
    (plain : ∀ token ∈ tokens.getLast?, Text.after? Grammar.glue token = none)
    (position : Nat) :
    ∀ value ∈ (lexicon.readStream ⟨position, tokens⟩).getLast?, value.isGlue = false := by
  intro value last
  rw [readStream, List.getLast?_map] at last
  obtain ⟨chunk, member, rfl⟩ := Option.map_eq_some_iff.1 last
  exact isGlue_readChunk (kind_of_getLast?_chunks plain position chunk member)

theorem isGlue_of_head?_readStream
    {tokens : List Text}
    (plain : ∀ token ∈ tokens.head?, Text.after? Grammar.glue token = none)
    (position : Nat) :
    ∀ value ∈ (lexicon.readStream ⟨position, tokens⟩).head?, value.isGlue = false := by
  intro value next
  rw [readStream, List.head?_map] at next
  obtain ⟨chunk, member, rfl⟩ := Option.map_eq_some_iff.1 next
  exact isGlue_readChunk (kind_of_head?_chunks plain position chunk member)

theorem readStream_ne_nil
    {tokens : List Text}
    (nonempty : tokens ≠ [])
    (position : Nat) :
    lexicon.readStream ⟨position, tokens⟩ ≠ [] :=
  mt List.map_eq_nil_iff.1 (chunks_ne_nil position nonempty)

/-- A template whose arguments cannot be counted is among the values. -/
theorem outOfRange_mem_readStream
    {cursor : Cursor}
    (uncounted : ¬ lexicon.Counts cursor) :
    .outOfRange ∈ lexicon.readStream cursor := by
  simp only [Counts, Classical.not_forall, Classical.not_not] at uncounted
  obtain ⟨chunk, member, kind⟩ := uncounted
  refine List.mem_map.2 ⟨chunk, member, ?_⟩
  rw [readChunk, kind]

end Lexicon

/-! ## Streams that are put together -/

namespace Environment

/-- Two texts, the first of them closed, with a separator between them: no glue token stands on
either side of it.  Unless a template of the second text asks for tokens that cannot be counted
from the start of the first one, they are resolved to the text of the first, a space and the text
of the second, which starts from the state that the first one leaves, and every token belongs to
exactly one value.  Otherwise this is reported. -/
theorem resolveText_joined
    (environment : Environment)
    {first second : Text}
    (firstWritten : first ≠ [])
    (secondWritten : second ≠ [])
    (closed : environment.lexicon.Closed (Cursor.tokens Grammar.valueSeparator first))
    (lastPlain :
      ∀ token ∈ (Cursor.tokens Grammar.valueSeparator first).getLast?,
        Text.after? Grammar.glue token = none)
    (nextPlain :
      ∀ token ∈ (Cursor.tokens Grammar.valueSeparator second).head?,
        Text.after? Grammar.glue token = none)
    (state : Expansion) :
    let lexicon := environment.lexicon
    let text := first ++ Grammar.valueSeparator :: second
    let further : Cursor :=
      ⟨(Cursor.tokens Grammar.valueSeparator first).length,
        Cursor.tokens Grammar.valueSeparator second⟩
    let left := environment.resolveText first state
    let right := environment.resolveText second left.2
    let joined := environment.resolveText text state
    (lexicon.Counts further →
      joined = (left.1 ++ ' ' :: right.1, right.2) ∧
      lexicon.chunksOf text = lexicon.chunksOf first ++ lexicon.chunksOf second ∧
      (lexicon.chunksOf text).flatMap Chunk.tokens =
        Cursor.tokens Grammar.valueSeparator text) ∧
    (¬ lexicon.Counts further → .outOfRange state.origin ∈ joined.2.notices) := by
  intro lexicon text further left right joined
  have chunks : lexicon.chunksOf text = lexicon.chunksOf first ++ lexicon.chunks further :=
    Lexicon.chunksOf_joined firstWritten secondWritten closed
  have values : lexicon.readSequence text =
      lexicon.readSequence first ++ lexicon.readStream further := by
    have mapped := congrArg (List.map lexicon.readChunk) chunks
    rwa [List.map_append] at mapped
  constructor
  · intro counts
    have same : lexicon.chunks further = lexicon.chunksOf second :=
      Lexicon.chunks_of_counts (Nat.zero_le _) counts
    have sameValues : lexicon.readStream further = lexicon.readSequence second :=
      congrArg (List.map lexicon.readChunk) same
    refine ⟨?_, by rw [chunks, same], ?_⟩
    · show Value.evalStream environment.ambient (lexicon.readSequence text) state = _
      rw [values, sameValues]
      exact Value.evalStream_append
        (Lexicon.readStream_ne_nil (Cursor.tokens_ne_nil firstWritten) 0)
        (Lexicon.readStream_ne_nil (Cursor.tokens_ne_nil secondWritten) 0)
        (Lexicon.isGlue_of_getLast?_readStream lastPlain 0)
        (Lexicon.isGlue_of_head?_readStream nextPlain 0) state
    · have all : lexicon.Counts (Cursor.ofText Grammar.valueSeparator text) := by
        intro chunk member
        have either : chunk ∈ lexicon.chunksOf first ++ lexicon.chunks further := by
          rw [← chunks]
          exact member
        rcases List.mem_append.1 either with before | after
        · exact Lexicon.counts_of_closed closed 0 chunk before
        · exact counts chunk after
      exact Lexicon.flatMap_tokens_chunks (fun token => Cursor.not_mem_of_mem_tokens) all
  · intro uncounted
    have reached : Value.outOfRange ∈ lexicon.readSequence text := by
      rw [values]
      exact List.mem_append_right _ (Lexicon.outOfRange_mem_readStream uncounted)
    exact Value.outOfRange_mem_notices reached state

/-! ### Two templates -/

/-- A template with two arguments, and one with so many that the second token of a stream is too
late for them. -/
def outreach : Environment :=
  let pair := Lexicon.empty.addTemplate "pair".toList "§0 §1".toList
  ⟨pair.addTemplate "last".toList "§18446744073709551613".toList, ⟨0, none, []⟩⟩

theorem outreach_closed :
    outreach.lexicon.Closed ["tpl-pair".toList, "a".toList, "b".toList] := by
  have marked : outreach.lexicon.markers.markerAt? none "tpl-pair".toList =
      some (Grammar.template, .template) := by rfl
  have complete : outreach.lexicon.Complete "tpl-pair".toList ["a".toList, "b".toList] := by
    rw [Lexicon.Complete, marked]
    decide
  have rest : ["a".toList, "b".toList].drop
      (outreach.lexicon.span "tpl-pair".toList
        (Cursor.ofTokens ["a".toList, "b".toList])) = [] := by rfl
  refine .value (by rfl) complete ?_
  rw [rest]
  exact .nil

theorem outreach_counts (position : Nat) :
    outreach.lexicon.Counts ⟨position, ["c".toList]⟩ := by
  have unmarked : outreach.lexicon.markers.markerAt? none "c".toList = none := by rfl
  have complete : outreach.lexicon.Complete "c".toList [] := by
    rw [Lexicon.Complete, unmarked]
    trivial
  exact Lexicon.counts_of_closed (.value (by rfl) complete .nil) position

/-- A template with its arguments, and a token that follows. -/
theorem resolveText_joined_pair :
    let state := Expansion.start "cssf--m_tpl-pair_a_b_c".toList 15
    let left := outreach.resolveText "tpl-pair_a_b".toList state
    let right := outreach.resolveText "c".toList left.2
    outreach.resolveText "tpl-pair_a_b_c".toList state =
      (left.1 ++ ' ' :: right.1, right.2) := by
  intro state left right
  have written : "tpl-pair_a_b".toList ≠ [] ∧ "c".toList ≠ [] := by decide
  have joined := resolveText_joined outreach written.1 written.2 outreach_closed (by decide)
    (by decide) state
  exact (joined.1 (outreach_counts 3)).1

/-- A template that takes no token by itself is out of range after another token. -/
theorem resolveText_joined_ne :
    let state := Expansion.start "cssf--m_x_tpl-last".toList 15
    outreach.resolveText "x".toList state = ("x".toList, state) ∧
    outreach.resolveText "tpl-last".toList state = ("§18446744073709551613".toList, state) ∧
    outreach.resolveText "x_tpl-last".toList state ≠
      ("x §18446744073709551613".toList, state) := by
  intro state
  have word : outreach.lexicon.chunksOf "x".toList = [⟨.value, "x".toList⟩] :=
    Lexicon.chunks_of_single (by rfl) rfl
  have last : outreach.lexicon.chunksOf "tpl-last".toList = [⟨.value, "tpl-last".toList⟩] :=
    Lexicon.chunks_of_single (by rfl) rfl
  have both : outreach.lexicon.chunksOf "x_tpl-last".toList =
      [⟨.value, "x".toList⟩, ⟨.outOfRange, "tpl-last".toList⟩] := by
    have second : outreach.lexicon.chunks ⟨1, ["tpl-last".toList]⟩ =
        [⟨.outOfRange, "tpl-last".toList⟩] :=
      Lexicon.chunks_of_single (by rfl) rfl
    rw [← second]
    exact Lexicon.chunks_of_nextChunk? (by rfl)
  have readWord : outreach.lexicon.read false "x".toList = .text "x".toList :=
    Lexicon.read_of_unmarked (by decide) (by rfl)
  have readLast : outreach.lexicon.read false "tpl-last".toList =
      .text "§18446744073709551613".toList := by
    rw [Lexicon.read]
    rfl
  have resolved (text : Text) : outreach.resolveText text state =
      Value.evalStream outreach.ambient
        ((outreach.lexicon.chunksOf text).map outreach.lexicon.readChunk) state :=
    rfl
  refine ⟨?_, ?_, ?_⟩
  · rw [resolved, word, List.map_singleton, Lexicon.readChunk, readWord]
    rfl
  · rw [resolved, last, List.map_singleton, Lexicon.readChunk, readLast]
    rfl
  · rw [resolved, both]
    simp only [List.map_cons, List.map_nil, Lexicon.readChunk, readWord]
    intro same
    have notices : [Notice.outOfRange state.origin] = [] :=
      congrArg (fun result => result.2.notices) same
    cases notices

end Environment

end AtomicCss
