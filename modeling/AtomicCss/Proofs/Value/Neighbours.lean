import AtomicCss.Proofs.Value.Calls
import AtomicCss.Proofs.Value.Composition

/-!
Contract: what stands between neighbouring values.

Owns:
- the text of pieces with a space between two neighbours unless one of them is glue;
- the words of a stream and the arguments of a call, which both are that text;
- the pieces that the tokens of a stream and those of a call are resolved to, in their order;
- the main statement, for all pieces, all streams and all calls.

Does not own: the values after a call.

## Empty values

A stream is spaced as its pieces are, also around an empty value.  The arguments of a call are
not: as long as nothing is written, no space is, so the empty values in front leave no trace.
-/

namespace AtomicCss

/-! ## Pieces -/

namespace Piece

/-- Between two neighbours stands a space, unless one of them is glue. -/
def gap (first second : Piece) : Text :=
  if first.glue || second.glue then [] else [' ']

/-- Pieces in their order, with the gaps between them. -/
def spaced : List Piece → Text
  | [] => []
  | [piece] => piece.text
  | piece :: next :: others => piece.text ++ gap piece next ++ spaced (next :: others)

theorem spaced_cons (front : Text) (piece : Piece) (others : List Piece) :
    spaced (⟨front ++ piece.text, piece.glue⟩ :: others) = front ++ spaced (piece :: others) := by
  cases others with
  | nil => rfl
  | cons next more => simp [spaced, gap]

/-- By induction on the pieces: the words are those of the pieces after the first one, and the
first piece is a word of its own or goes in front of the first of them. -/
theorem stream_eq_spaced (pieces : List Piece) : stream pieces = spaced pieces := by
  induction pieces with
  | nil => rfl
  | cons piece others inductionHypothesis =>
      cases others with
      | nil => simp [stream, words, spaced]
      | cons next more =>
          obtain ⟨word, rest, found⟩ :=
            List.exists_cons_of_ne_nil (words_ne_nil (List.cons_ne_nil next more))
          rw [stream, found] at inductionHypothesis
          rw [spaced, ← inductionHypothesis, stream, words_cons found, List.head?_cons,
            Option.any_some, gap]
          split
          · cases rest with
            | nil => simp
            | cons second later => simp [List.intercalate_cons_cons]
          · simp [List.intercalate_cons_cons]

/-- Where something is written, a piece is added with the gap that it has to what is written. -/
theorem Draft.add_eq {draft : Draft} (written : draft.text ≠ []) (piece : Piece) :
    draft.add piece =
      ⟨draft.text ++ gap ⟨draft.text, draft.attached⟩ piece ++ piece.text, piece.glue⟩ := by
  have same : (draft.text = [] || draft.attached || piece.glue) =
      (draft.attached || piece.glue) := by simp [written]
  rw [Draft.add, same, gap]
  split <;> simp

/-- By induction on the pieces: what is written so far counts as one piece. -/
theorem foldl_add (pieces : List Piece) {draft : Draft} (written : draft.text ≠ []) :
    (pieces.foldl Draft.add draft).text = spaced (⟨draft.text, draft.attached⟩ :: pieces) := by
  induction pieces generalizing draft with
  | nil => rfl
  | cons piece others inductionHypothesis =>
      rw [List.foldl_cons, Draft.add_eq written, inductionHypothesis (by simp [written]),
        spaced_cons, spaced]

/-- The arguments of a call are spaced from the first one on that is not empty. -/
theorem callArguments_eq_spaced (pieces : List Piece) :
    callArguments pieces = spaced (pieces.dropWhile fun piece => piece.text = []) := by
  have begin (attached : Bool) : (pieces.foldl Draft.add ⟨[], attached⟩).text =
      spaced (pieces.dropWhile fun piece => piece.text = []) := by
    induction pieces generalizing attached with
    | nil => rfl
    | cons piece others inductionHypothesis =>
        have first : Draft.add ⟨[], attached⟩ piece = ⟨piece.text, piece.glue⟩ := by
          simp [Draft.add]
        rw [List.foldl_cons, first]
        by_cases empty : piece.text = []
        · rw [List.dropWhile_cons_of_pos (by simpa using empty), empty]
          exact inductionHypothesis piece.glue
        · rw [List.dropWhile_cons_of_neg (by simpa using empty)]
          exact foldl_add others empty
  exact begin false

theorem callArguments_of_filled
    {pieces : List Piece}
    (filled : ∀ piece ∈ pieces, piece.text ≠ []) :
    callArguments pieces = spaced pieces := by
  rw [callArguments_eq_spaced]
  cases pieces with
  | nil => rfl
  | cons piece others =>
      rw [List.dropWhile_cons_of_neg (by simpa using filled piece List.mem_cons_self)]

end Piece

/-! ## Tokens -/

namespace Environment

/-- The pieces of a stream: a glue token is its character, and every other token starts a value
that takes its tokens with it. -/
inductive Streams (environment : Environment) : Cursor → Expansion → List Piece → Prop where
  | done (position : Nat) (state : Expansion) : Streams environment ⟨position, []⟩ state []
  | glue
      {position : Nat}
      {token name : Text}
      {rest : List Text}
      {state : Expansion}
      {pieces : List Piece}
      (marked : Text.after? Grammar.glue token = some name)
      (others : Streams environment ⟨position + 1, rest⟩ state pieces) :
      Streams environment ⟨position, token :: rest⟩ state
        (⟨environment.lexicon.characterFor name, true⟩ :: pieces)
  | value
      {position : Nat}
      {token : Text}
      {rest : List Text}
      {state : Expansion}
      {consumed : Consumed}
      {pieces : List Piece}
      (plain : Text.after? Grammar.glue token = none)
      (read : environment.consume? ⟨position, token :: rest⟩ state = some consumed)
      (others : Streams environment consumed.remaining consumed.state pieces) :
      Streams environment ⟨position, token :: rest⟩ state (⟨consumed.value, false⟩ :: pieces)

/-- The pieces of the arguments of a call: a glue token is its character, and every other token
is the list of what its own pieces are resolved to. -/
inductive Arguments (environment : Environment) : List Text → Expansion → List Piece → Prop where
  | done (state : Expansion) : Arguments environment [] state []
  | glue
      {token name : Text}
      {rest : List Text}
      {state : Expansion}
      {pieces : List Piece}
      (marked : Text.after? Grammar.glue token = some name)
      (others : Arguments environment rest state pieces) :
      Arguments environment (token :: rest) state
        (⟨environment.lexicon.characterFor name, true⟩ :: pieces)
  | value
      {token : Text}
      {rest : List Text}
      {state : Expansion}
      {pieces : List Piece}
      (plain : Text.after? Grammar.glue token = none)
      (others :
        Arguments environment rest
          (environment.resolveEach (environment.lexicon.argumentPieces token) state).2 pieces) :
      Arguments environment (token :: rest) state
        (⟨List.intercalate ", ".toList
            (environment.resolveEach (environment.lexicon.argumentPieces token) state).1,
          false⟩ :: pieces)

variable (environment : Environment)

/-- By induction on the tokens that are left, one value after the other. -/
theorem streams_readStream (cursor : Cursor) (state : Expansion) :
    environment.Streams cursor state
      (Value.evalAll environment.ambient (environment.lexicon.readStream cursor) state).1 := by
  induction remaining : cursor.rest.length using Nat.strongRecOn generalizing cursor state with
  | ind remaining inductionHypothesis =>
      subst remaining
      obtain ⟨position, rest⟩ := cursor
      cases rest with
      | nil =>
          rw [Lexicon.readStream, Lexicon.chunks_nil]
          exact Streams.done position state
      | cons token rest =>
          cases marked : Text.after? Grammar.glue token with
          | some name =>
              have later := inductionHypothesis rest.length (Nat.lt_succ_self _)
                ⟨position + 1, rest⟩ state rfl
              rw [Lexicon.readStream, Lexicon.chunks_of_glue marked]
              exact Streams.glue marked later
          | none =>
              obtain ⟨⟨chunk, later⟩, read⟩ :
                  ∃ taken, environment.lexicon.consume? ⟨position, token :: rest⟩ = some taken :=
                ⟨_, environment.lexicon.consume?_cons token position rest⟩
              have first : environment.lexicon.nextChunk? ⟨position, token :: rest⟩ =
                  some (chunk, later) := by
                rw [← read]
                simp [Lexicon.nextChunk?, Cursor.peek?, marked]
              have plain : (environment.lexicon.readChunk chunk).isGlue = false :=
                Lexicon.isGlue_readChunk (Lexicon.kind_of_consume? read)
              let value := (environment.lexicon.readChunk chunk).eval environment.ambient state
              have resolved : environment.consume? ⟨position, token :: rest⟩ state =
                  some ⟨value.1, later, value.2⟩ := by
                rw [consume?_eq, read]
                rfl
              have others := inductionHypothesis later.rest.length
                (Lexicon.length_rest_of_consume? read) later value.2 rfl
              rw [Lexicon.readStream, Lexicon.chunks_of_nextChunk? first, List.map_cons,
                Value.evalAll, plain]
              exact Streams.value marked resolved others

/-- By induction on the tokens of the arguments. -/
theorem arguments_evalAll (tokens : List Text) (state : Expansion) :
    environment.Arguments tokens state
      (Value.evalAll environment.ambient (tokens.map environment.lexicon.argument) state).1 := by
  induction tokens generalizing state with
  | nil => exact Arguments.done state
  | cons token rest inductionHypothesis =>
      rw [List.map_cons, Value.evalAll]
      cases marked : Text.after? Grammar.glue token with
      | some name =>
          have glue : environment.lexicon.argument token =
              .glue (environment.lexicon.characterFor name) := by
            rw [Lexicon.argument, marked]
          rw [glue]
          exact Arguments.glue marked (inductionHypothesis state)
      | none =>
          let items := (environment.lexicon.argumentPieces token).map
            (environment.lexicon.read false)
          have list : environment.lexicon.argument token = .commaList items := by
            rw [Lexicon.argument, marked]
          have resolved := environment.resolveEach_eq
            (environment.lexicon.argumentPieces token) state
          have others := inductionHypothesis
            (environment.resolveEach (environment.lexicon.argumentPieces token) state).2
          have value := Arguments.value marked others
          rw [resolved] at value
          rw [list]
          exact value

/-- A call with something between its name and the first `close` has its arguments in
parentheses, and what follows the `close` after them. -/
theorem resolve_of_function
    {token marker : Text}
    (marked : environment.lexicon.markers.markerAt? none token = some (marker, .function))
    (named : Text.before Grammar.valueSeparator (token.drop marker.length) ≠ [])
    (given : Text.beyond Grammar.valueSeparator (token.drop marker.length) ≠ [])
    {state : Expansion}
    (room : state.depth < state.ceiling) :
    let tokens := Lexicon.parameters
      (Text.beyond Grammar.valueSeparator (token.drop marker.length))
    ∃ pieces following,
      environment.Arguments (Lexicon.beforeClose tokens) state.deepen pieces ∧
      (environment.resolve token state).1 =
        Text.before Grammar.valueSeparator (token.drop marker.length) ++
          '(' :: Piece.callArguments pieces ++ ')' :: Piece.trailing following := by
  intro tokens
  let inside := Value.evalAll environment.ambient
    ((Lexicon.beforeClose tokens).map environment.lexicon.argument) state.deepen
  let following := Value.evalAll environment.ambient
    ((Lexicon.afterClose tokens).map fun token =>
      environment.lexicon.readChunk (Chunk.ofToken token)) inside.2
  refine ⟨inside.1, following.1, environment.arguments_evalAll _ state.deepen, ?_⟩
  rw [resolve, Lexicon.read_of_function marked named given]
  refine (Expansion.nested_fst state token _).trans ?_
  rw [if_pos room]

/-- Between two neighbours stands one space, and none if one of them is glue: in every stream, and
in the arguments of every call that are not empty. -/
theorem neighbours_spaced :
    (∀ pieces : List Piece,
        Piece.stream pieces = Piece.spaced pieces ∧
          ((∀ piece ∈ pieces, piece.text ≠ []) →
            Piece.callArguments pieces = Piece.spaced pieces)) ∧
      (∀ cursor state, ∃ pieces,
        environment.Streams cursor state pieces ∧
          (environment.resolveStream cursor state).1 = Piece.spaced pieces) ∧
      ∀ token marker state,
        environment.lexicon.markers.markerAt? none token = some (marker, .function) →
        let name := Text.before Grammar.valueSeparator (token.drop marker.length)
        let given := Text.beyond Grammar.valueSeparator (token.drop marker.length)
        name ≠ [] → given ≠ [] → state.depth < state.ceiling →
          ∃ pieces following,
            environment.Arguments (Lexicon.beforeClose (Lexicon.parameters given)) state.deepen
              pieces ∧
            ((∀ piece ∈ pieces, piece.text ≠ []) →
              (environment.resolve token state).1 =
                name ++ '(' :: Piece.spaced pieces ++ ')' :: Piece.trailing following) := by
  refine ⟨?_, ?_, ?_⟩
  · exact fun pieces => ⟨Piece.stream_eq_spaced pieces, Piece.callArguments_of_filled⟩
  · intro cursor state
    exact ⟨_, environment.streams_readStream cursor state, Piece.stream_eq_spaced _⟩
  · intro token marker state marked name given named written room
    obtain ⟨pieces, following, arguments, text⟩ :=
      environment.resolve_of_function marked named written room
    refine ⟨pieces, following, arguments, fun filled => ?_⟩
    rw [text, Piece.callArguments_of_filled filled]

/-- A slash between two of three values, and glue at both ends of the arguments of a call. -/
theorem neighbours_spaced_slash :
    let slash : Piece := ⟨['/'], true⟩
    let pieces : List Piece := [⟨"1".toList, false⟩, slash, ⟨"2".toList, false⟩,
      ⟨"auto".toList, false⟩]
    let token := "fn-f_chrsl-slash_1_2_chrsl-slash_close".toList
    (∀ piece ∈ slash :: pieces, piece.text ≠ []) ∧
      Piece.stream pieces = "1/2 auto".toList ∧
      Piece.callArguments (slash :: pieces) = "/1/2 auto".toList ∧
      ruled.lexicon.markers.markerAt? none token = some ("fn-".toList, .function) ∧
      ∃ given following,
        ruled.Arguments ["chrsl-slash".toList, "1".toList, "2".toList, "chrsl-slash".toList]
          Ruled.fresh.deepen given ∧
        ((∀ piece ∈ given, piece.text ≠ []) →
          (ruled.resolve token Ruled.fresh).1 =
            "f".toList ++ '(' :: Piece.spaced given ++ ')' :: Piece.trailing following) := by
  intro slash pieces token
  obtain ⟨pieceWise, _, calls⟩ := neighbours_spaced ruled
  have filled : ∀ piece ∈ slash :: pieces, piece.text ≠ [] := by decide
  have marked : ruled.lexicon.markers.markerAt? none token = some ("fn-".toList, .function) := by
    rfl
  exact ⟨filled, (pieceWise pieces).1, (pieceWise (slash :: pieces)).2 filled, marked,
    calls token _ Ruled.fresh marked (by decide) (by decide) (by decide)⟩

end Environment

end AtomicCss
