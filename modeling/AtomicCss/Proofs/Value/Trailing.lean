import AtomicCss.Proofs.Value.Spacing

/-!
Contract: the tokens that follow the arguments of a call, in a token and in a stream.

Owns:
- calls whose arguments end with `close`, and how they are read;
- the text and the state of such a call with further tokens, on either way;
- when the two ways agree.

Does not own: the text of the call itself, which is the same on both ways.

## Why there are two ways

In a token every further token is a value for itself, and a space goes before each of them.  In a
stream the call ends at `close`, and the further tokens are cut into values as they are anywhere
else: a value takes the tokens that belong to it, and glue attaches to its neighbours.
-/

namespace AtomicCss

open Expansion

/-! ## Calls -/

namespace Lexicon

theorem isGlue_readChunk_ofToken (lexicon : Lexicon) (token : Text) :
    (lexicon.readChunk (Chunk.ofToken token)).isGlue = false ↔
      Text.after? Grammar.glue token = none := by
  rw [readChunk_ofToken]
  cases Text.after? Grammar.glue token with
  | none => simp [isGlue_read]
  | some character => simp [Value.isGlue]

end Lexicon

/-- Starts a function among the default markers. -/
def Registry.functionMarker : Text := "fn-".toList

theorem Registry.markerAt?_function (rest : Text) :
    standard.markerAt? none (functionMarker ++ rest) = some (functionMarker, .function) := by
  rfl

/-- A call whose arguments end with `close`. -/
structure ClosedCall where
  name : Text
  arguments : List Text
  named : name ≠ []
  nameWhole : Grammar.valueSeparator ∉ name
  given : arguments ≠ []
  argumentsWhole :
    ∀ argument ∈ arguments, Grammar.valueSeparator ∉ argument ∧ argument ≠ Grammar.close

namespace ClosedCall

variable (call : ClosedCall)

/-- The first token of the call. -/
def head : Text :=
  Registry.functionMarker ++ call.name

/-- All tokens of the call. -/
def tokens : List Text :=
  call.head :: (call.arguments ++ [Grammar.close])

/-- The call with further tokens after it. -/
def followedBy (trailing : List Text) : Text :=
  Text.join Grammar.valueSeparator (call.tokens ++ trailing)

/-- The call for itself. -/
def text : Text :=
  call.followedBy []

variable {trailing : List Text}

theorem followedBy_eq (trailing : List Text) :
    call.followedBy trailing =
      Registry.functionMarker ++ (call.name ++ Grammar.valueSeparator ::
        Text.join Grammar.valueSeparator (call.arguments ++ Grammar.close :: trailing)) := by
  have nonempty : call.arguments ++ Grammar.close :: trailing ≠ [] := by simp
  have tokens : call.tokens ++ trailing =
      call.head :: (call.arguments ++ Grammar.close :: trailing) := by simp [ClosedCall.tokens]
  rw [followedBy, tokens, Text.join_cons call.head nonempty, head, List.append_assoc]

theorem beforeClose_followedBy (trailing : List Text) :
    Lexicon.beforeClose (call.arguments ++ Grammar.close :: trailing) = call.arguments := by
  rw [Lexicon.beforeClose, List.takeWhile_append_of_pos]
  · simp
  · intro argument member
    simpa using (call.argumentsWhole argument member).2

section Whole

variable (whole : ∀ token ∈ trailing, Grammar.valueSeparator ∉ token ∧ token ≠ Grammar.close)

include whole

theorem tokens_followedBy :
    Cursor.tokens Grammar.valueSeparator (call.followedBy trailing) = call.tokens ++ trailing := by
  have written : call.followedBy trailing ≠ [] := by
    rw [followedBy_eq]
    simp [Registry.functionMarker]
  rw [Cursor.tokens, if_neg written]
  refine Text.split_join (by simp [tokens]) ?_
  intro token member
  rcases List.mem_append.1 member with own | further
  · rcases List.mem_cons.1 own with rfl | inside
    · intro separated
      rcases List.mem_append.1 separated with marker | name
      · exact absurd marker (by decide)
      · exact call.nameWhole name
    · rcases List.mem_append.1 inside with argument | last
      · exact (call.argumentsWhole token argument).1
      · rw [List.mem_singleton.1 last]
        decide
  · exact (whole token further).1

theorem parameters_followedBy :
    Lexicon.parameters
        (Text.join Grammar.valueSeparator (call.arguments ++ Grammar.close :: trailing)) =
      call.arguments ++ Grammar.close :: trailing := by
  refine Text.split_join (by simp) ?_
  intro token member
  rcases List.mem_append.1 member with argument | rest
  · exact (call.argumentsWhole token argument).1
  · rcases List.mem_cons.1 rest with rfl | further
    · decide
    · exact (whole token further).1

theorem afterClose_followedBy :
    Lexicon.afterClose (call.arguments ++ Grammar.close :: trailing) = trailing := by
  have others : trailing.filter (· ≠ Grammar.close) = trailing := by
    rw [List.filter_eq_self]
    intro token member
    simpa using (whole token member).2
  rw [Lexicon.afterClose, List.dropWhile_append_of_pos]
  · simpa using others
  · intro argument member
    simpa using (call.argumentsWhole argument member).2

variable {lexicon : Lexicon} (default : lexicon.markers = Registry.standard)

include default

/-- In a token every further token is a value for itself. -/
theorem read_followedBy :
    lexicon.read false (call.followedBy trailing) =
      .call (call.followedBy trailing) call.name (call.arguments.map lexicon.argument)
        (trailing.map fun token => lexicon.readChunk (Chunk.ofToken token)) := by
  have marked : lexicon.markers.markerAt? none (call.followedBy trailing) =
      some (Registry.functionMarker, .function) := by
    rw [default, followedBy_eq]
    exact Registry.markerAt?_function _
  have rest : (call.followedBy trailing).drop Registry.functionMarker.length =
      call.name ++ Grammar.valueSeparator ::
        Text.join Grammar.valueSeparator (call.arguments ++ Grammar.close :: trailing) := by
    rw [followedBy_eq, List.drop_left]
  have name := Text.before_append_cons call.nameWhole
    (Text.join Grammar.valueSeparator (call.arguments ++ Grammar.close :: trailing))
  have beyond : Text.beyond Grammar.valueSeparator
      ((call.followedBy trailing).drop Registry.functionMarker.length) =
        Text.join Grammar.valueSeparator (call.arguments ++ Grammar.close :: trailing) := by
    rw [rest, Text.beyond, Text.beyond?_append_cons call.nameWhole, Option.getD_some]
  have given : Text.join Grammar.valueSeparator
      (call.arguments ++ Grammar.close :: trailing) ≠ [] := by
    rw [Text.join_append call.given (List.cons_ne_nil _ _)]
    simp
  rw [Lexicon.read_of_function marked (by rw [rest, name]; exact call.named)
    (by rw [beyond]; exact given)]
  rw [beyond, rest, name, call.parameters_followedBy whole, call.beforeClose_followedBy,
    call.afterClose_followedBy whole]

/-- In a stream the call takes its own tokens, and the further tokens are cut into chunks. -/
theorem chunksOf_followedBy :
    lexicon.chunksOf (call.followedBy trailing) =
      ⟨.value, call.text⟩ :: lexicon.chunks ⟨call.tokens.length, trailing⟩ := by
  have marked : lexicon.markers.markerAt? none call.head =
      some (Registry.functionMarker, .function) := by
    rw [default]
    exact Registry.markerAt?_function call.name
  have plain : Text.after? Grammar.glue call.head = none := by rfl
  let own := call.arguments ++ [Grammar.close]
  have size : own.length = call.arguments.length + 1 := List.length_append
  have found : (own ++ trailing).findIdx? (· = Grammar.close) = some call.arguments.length := by
    have before : call.arguments.findIdx? (· = Grammar.close) = none := by
      rw [List.findIdx?_eq_none_iff]
      intro argument member
      simpa using (call.argumentsWhole argument member).2
    have last : [Grammar.close].findIdx? (· = Grammar.close) = some 0 := by rfl
    rw [List.findIdx?_append, List.findIdx?_append, before, last]
    simp
  have span : lexicon.span call.head (Cursor.ofTokens (own ++ trailing)) = own.length := by
    simp only [Lexicon.span, marked, Cursor.length_takeThrough, Cursor.ofTokens, found,
      Option.map_some, Option.getD_some, size]
  have enough : own.length ≤ (own ++ trailing).length :=
    (List.sublist_append_left own trailing).length_le
  have counted : Cursor.Addressable ⟨0 + 1, own ++ trailing⟩ own.length := Or.inl enough
  rw [Lexicon.chunksOf, Cursor.ofText, call.tokens_followedBy whole]
  show lexicon.chunks ⟨0, call.head :: (own ++ trailing)⟩ = _
  rw [Lexicon.chunks_of_value plain, span, if_pos counted, List.take_left, List.drop_left,
    Nat.min_eq_left enough]
  have place : 0 + 1 + own.length = call.tokens.length := Nat.add_comm 1 own.length
  rw [place, text, followedBy, List.append_nil]
  rfl

end Whole

end ClosedCall

/-! ## The two ways -/

/-- A call that is not refused is resolved on the level of its state. -/
theorem Value.eval_call_of_fits
    {ambient : Ambient}
    {source name : Text}
    {arguments trailing : List Value}
    {state : Expansion}
    (fits : ¬ Refuses ((Value.call source name arguments trailing).eval ambient) state) :
    (Value.call source name arguments trailing).eval ambient state =
      let inside := evalAll ambient arguments state
      let after := evalAll ambient trailing inside.2
      (name ++ '(' :: Piece.callArguments inside.1 ++ ')' :: Piece.trailing after.1, after.2) := by
  have body := (uniform_evalAll ambient arguments).bind
    (fun (inside : List Piece) (state : Expansion) =>
      let after := evalAll ambient trailing state
      (name ++ '(' :: Piece.callArguments inside ++ ')' :: Piece.trailing after.1, after.2))
    fun inside => (uniform_evalAll ambient trailing).map fun after =>
      name ++ '(' :: Piece.callArguments inside ++ ')' :: Piece.trailing after
  have nested : (Value.call source name arguments trailing).eval ambient = fun state =>
      state.nested source fun deeper =>
        let inside := evalAll ambient arguments deeper
        let after := evalAll ambient trailing inside.2
        (name ++ '(' :: Piece.callArguments inside.1 ++ ')' :: Piece.trailing after.1,
          after.2) := rfl
  rw [nested] at fits ⊢
  exact CeilingFree.nested_eq (fun _ => body.free state.deepen) fits

namespace Environment

section Trailing

variable {environment : Environment}
  (default : environment.lexicon.markers = Registry.standard)
  (call : ClosedCall)
  {trailing : List Text}
  (whole : ∀ token ∈ trailing, Grammar.valueSeparator ∉ token ∧ token ≠ Grammar.close)
  {state : Expansion}

include default whole

theorem resolveText_followedBy :
    let called := environment.resolve call.text state
    let together := Value.evalAll environment.ambient
      (environment.lexicon.readStream ⟨call.tokens.length, trailing⟩) called.2
    environment.resolveText (call.followedBy trailing) state =
      (Piece.stream (⟨called.1, false⟩ :: together.1), together.2) := by
  intro called together
  have values : environment.lexicon.readSequence (call.followedBy trailing) =
      environment.lexicon.read false call.text ::
        environment.lexicon.readStream ⟨call.tokens.length, trailing⟩ :=
    congrArg (List.map environment.lexicon.readChunk) (call.chunksOf_followedBy whole default)
  show Value.evalStream environment.ambient
    (environment.lexicon.readSequence (call.followedBy trailing)) state = _
  rw [values, Value.evalStream, Value.evalAll, Lexicon.isGlue_read]
  rfl

theorem resolve_followedBy
    (fits : ¬ Refuses (environment.resolve (call.followedBy trailing)) state)
    (callFits : ¬ Refuses (environment.resolve call.text) state) :
    let called := environment.resolve call.text state
    let each := Value.evalAll environment.ambient
      (trailing.map fun token => environment.lexicon.readChunk (Chunk.ofToken token)) called.2
    environment.resolve (call.followedBy trailing) state =
      (called.1 ++ Piece.trailing each.1, each.2) := by
  have nothing : ∀ token ∈ ([] : List Text),
      Grammar.valueSeparator ∉ token ∧ token ≠ Grammar.close := by simp
  have alone : environment.lexicon.read false call.text = _ :=
    call.read_followedBy nothing default
  have followed := call.read_followedBy whole default
  unfold resolve at fits callFits ⊢
  rw [alone] at callFits ⊢
  rw [followed] at fits ⊢
  rw [Value.eval_call_of_fits fits, Value.eval_call_of_fits callFits]
  simp [Value.evalAll, Piece.trailing]

/-- Where the stream is not refused a step deeper, the call at its front is not. -/
theorem fits_of_resolveText_followedBy
    (sequenceFits : ¬ Refuses (environment.resolveText (call.followedBy trailing)) state) :
    ¬ Refuses (environment.resolve call.text) state := by
  let next (text : Text) (state : Expansion) : Text × Expansion :=
    let together := Value.evalAll environment.ambient
      (environment.lexicon.readStream ⟨call.tokens.length, trailing⟩) state
    (Piece.stream (⟨text, false⟩ :: together.1), together.2)
  have sequence : environment.resolveText (call.followedBy trailing) = fun state =>
      next (environment.resolve call.text state).1 (environment.resolve call.text state).2 := by
    funext state
    exact resolveText_followedBy default call whole
  have balanced : ∀ text, Balanced (next text) := by
    intro text
    exact ((Value.uniform_evalAll environment.ambient _).map fun together =>
      Piece.stream (⟨text, false⟩ :: together)).balanced
  rw [sequence] at sequenceFits
  exact (CeilingFree.fits_of_bind ((environment.uniform_resolve call.text).free state) balanced
    sequenceFits).1

/-- Where neither way is refused a step deeper, the call itself comes to the same text and state.
In the token the further tokens are values each for itself, in the stream they are cut into
chunks.  If every further token is a chunk for itself, both ways leave the same state, and their
texts agree exactly when none of the tokens is glue. -/
theorem resolve_trailing
    (tokenFits : ¬ Refuses (environment.resolve (call.followedBy trailing)) state)
    (sequenceFits : ¬ Refuses (environment.resolveText (call.followedBy trailing)) state) :
    let lexicon := environment.lexicon
    let called := environment.resolve call.text state
    let chunks := lexicon.chunks ⟨call.tokens.length, trailing⟩
    let each := Value.evalAll environment.ambient
      ((trailing.map Chunk.ofToken).map lexicon.readChunk) called.2
    let together := Value.evalAll environment.ambient (chunks.map lexicon.readChunk) called.2
    let token := environment.resolve (call.followedBy trailing) state
    let sequence := environment.resolveText (call.followedBy trailing) state
    token = (called.1 ++ Piece.trailing each.1, each.2) ∧
    sequence = (Piece.stream (⟨called.1, false⟩ :: together.1), together.2) ∧
    (chunks = trailing.map Chunk.ofToken →
      token.2 = sequence.2 ∧
      (token.1 = sequence.1 ↔
        ∀ token ∈ trailing, Text.after? Grammar.glue token = none)) := by
  intro lexicon called chunks each together token sequence
  have callFits := fits_of_resolveText_followedBy default call whole sequenceFits
  have values : (trailing.map Chunk.ofToken).map lexicon.readChunk =
      trailing.map fun token => lexicon.readChunk (Chunk.ofToken token) := List.map_map
  have tokenEq : token = (called.1 ++ Piece.trailing each.1, each.2) := by
    simp only [each, values]
    exact resolve_followedBy default call whole tokenFits callFits
  have sequenceEq : sequence =
      (Piece.stream (⟨called.1, false⟩ :: together.1), together.2) :=
    resolveText_followedBy default call whole
  refine ⟨tokenEq, sequenceEq, ?_⟩
  intro alone
  have same : each = together := by
    simp only [each, together, alone]
  -- The pieces are the same on both ways, and only the spaces before them can differ.
  have glues : (∀ piece ∈ together.1, piece.glue = false) ↔
      ∀ token ∈ trailing, Text.after? Grammar.glue token = none := by
    have kinds : together.1.map Piece.glue = trailing.map fun token =>
        (lexicon.readChunk (Chunk.ofToken token)).isGlue := by
      rw [← same]
      simp only [each, Value.map_glue_evalAll, List.map_map]
      rfl
    have pieces : (∀ glue ∈ together.1.map Piece.glue, glue = false) ↔
        ∀ piece ∈ together.1, piece.glue = false := List.forall_mem_map
    rw [← pieces, kinds, List.forall_mem_map]
    simp only [Lexicon.isGlue_readChunk_ofToken]
  rw [tokenEq, sequenceEq, same]
  exact ⟨rfl, (Piece.stream_cons_eq_iff called.1 together.1).trans glues⟩

end Trailing

namespace Ruled

/-- A call with one argument. -/
def width : ClosedCall :=
  ⟨"calc".toList, ["1px".toList], by decide, by decide, by decide, by decide⟩

/-- The value of the call, with the values that follow it in a token. -/
def widthValue (source : Text) (trailing : List Value) : Value :=
  .call source "calc".toList [.commaList [.text "1px".toList]] trailing

theorem argument_width :
    width.arguments.map ruled.lexicon.argument = [.commaList [.text "1px".toList]] := by
  have pieces : ruled.lexicon.argumentPieces "1px".toList = ["1px".toList] := by rfl
  have word : ruled.lexicon.read false "1px".toList = .text (Units.convert "1px".toList) :=
    Lexicon.read_of_unmarked (by decide) (by rfl)
  have converted : Units.convert "1px".toList = "1px".toList := by decide
  show [Value.commaList ((ruled.lexicon.argumentPieces "1px".toList).map
    (ruled.lexicon.read false))] = _
  rw [pieces, List.map_singleton, word, converted]

theorem resolve_width
    {trailing : List Text}
    (whole : ∀ token ∈ trailing, Grammar.valueSeparator ∉ token ∧ token ≠ Grammar.close)
    (state : Expansion) :
    ruled.resolve (width.followedBy trailing) state =
      (widthValue (width.followedBy trailing)
        (trailing.map fun token => ruled.lexicon.readChunk (Chunk.ofToken token))).eval
          ruled.ambient state := by
  rw [resolve, width.read_followedBy whole rfl, argument_width]
  rfl

theorem resolveText_width
    {trailing : List Text}
    (whole : ∀ token ∈ trailing, Grammar.valueSeparator ∉ token ∧ token ≠ Grammar.close)
    (state : Expansion) :
    ruled.resolveText (width.followedBy trailing) state =
      Value.evalStream ruled.ambient
        (widthValue width.text [] :: ruled.lexicon.readStream ⟨3, trailing⟩) state := by
  have call : ruled.lexicon.read false width.text = widthValue width.text [] := by
    have nothing : ∀ token ∈ ([] : List Text),
        Grammar.valueSeparator ∉ token ∧ token ≠ Grammar.close := by simp
    rw [ClosedCall.text, width.read_followedBy nothing rfl, argument_width]
    rfl
  have values : ruled.lexicon.readSequence (width.followedBy trailing) =
      ruled.lexicon.read false width.text :: ruled.lexicon.readStream ⟨3, trailing⟩ :=
    congrArg (List.map ruled.lexicon.readChunk) (width.chunksOf_followedBy whole rfl)
  show Value.evalStream ruled.ambient
    (ruled.lexicon.readSequence (width.followedBy trailing)) state = _
  rw [values, call]

end Ruled

open Ruled in
/-- A word after a call is the same on both ways. -/
theorem resolve_trailing_auto :
    ruled.resolve "fn-calc_1px_close_auto".toList fresh =
      ruled.resolveText "fn-calc_1px_close_auto".toList fresh := by
  have whole : ∀ token ∈ ["auto".toList],
      Grammar.valueSeparator ∉ token ∧ token ≠ Grammar.close := by decide
  have word : ruled.lexicon.read false "auto".toList = .text "auto".toList :=
    read_word (by decide) (by rfl) (by decide)
  have chunks : ruled.lexicon.chunks ⟨3, ["auto".toList]⟩ = [⟨.value, "auto".toList⟩] :=
    Lexicon.chunks_of_single (by rfl) rfl
  have stream : ruled.lexicon.readStream ⟨3, ["auto".toList]⟩ = [.text "auto".toList] := by
    rw [Lexicon.readStream, chunks, List.map_singleton]
    exact congrArg (fun value => [value]) word
  have each : ruled.lexicon.readChunk (Chunk.ofToken "auto".toList) = .text "auto".toList := word
  have tokenFits : ¬ Refuses (ruled.resolve (width.followedBy ["auto".toList])) fresh := by
    unfold Refuses
    rw [resolve_width whole, List.map_singleton, each]
    decide
  have sequenceFits :
      ¬ Refuses (ruled.resolveText (width.followedBy ["auto".toList])) fresh := by
    unfold Refuses
    rw [resolveText_width whole, stream]
    decide
  obtain ⟨_, _, agree⟩ := resolve_trailing rfl width whole tokenFits sequenceFits
  obtain ⟨states, texts⟩ := agree chunks
  exact Prod.ext (texts.2 (by decide)) states

namespace Ruled

/-- After the call a root value in a token is a reference and a word. -/
theorem resolve_rootValue :
    ruled.resolve "fn-calc_1px_close_rval-x_red".toList fresh =
      ("calc(1px) var(--x) red".toList, fresh) := by
  have whole : ∀ token ∈ ["rval-x".toList, "red".toList],
      Grammar.valueSeparator ∉ token ∧ token ≠ Grammar.close := by decide
  have marked : ruled.lexicon.markers.markerAt? none "rval-x".toList =
      some (Grammar.rootValue, .rootValue) := by rfl
  have alone : ruled.lexicon.read false "rval-x".toList =
      .text (Lexicon.reference "x".toList) :=
    Lexicon.read_of_loneRootValue (by decide) marked (by rfl)
  have each : ["rval-x".toList, "red".toList].map
      (fun token => ruled.lexicon.readChunk (Chunk.ofToken token)) =
        [.text (Lexicon.reference "x".toList), .text "red".toList] := by
    show [ruled.lexicon.read false "rval-x".toList, ruled.lexicon.read false "red".toList] = _
    rw [alone, read_red]
  show ruled.resolve (width.followedBy ["rval-x".toList, "red".toList]) fresh = _
  rw [resolve_width whole, each]
  rfl

/-- In a stream it is recorded. -/
theorem resolveText_rootValue :
    ruled.resolveText "fn-calc_1px_close_rval-x_red".toList fresh =
      ("calc(1px) var(--x)".toList, fresh.record "x".toList "red".toList) := by
  have whole : ∀ token ∈ ["rval-x".toList, "red".toList],
      Grammar.valueSeparator ∉ token ∧ token ≠ Grammar.close := by decide
  have chunks : ruled.lexicon.chunks ⟨3, ["rval-x".toList, "red".toList]⟩ =
      [⟨.value, "rval-x_red".toList⟩] :=
    Lexicon.chunks_of_single (by rfl) rfl
  have stream : ruled.lexicon.readStream ⟨3, ["rval-x".toList, "red".toList]⟩ =
      [.rootValue "x".toList [.text "red".toList]] := by
    rw [Lexicon.readStream, chunks, ← read_rootValue]
    rfl
  show ruled.resolveText (width.followedBy ["rval-x".toList, "red".toList]) fresh = _
  rw [resolveText_width whole, stream]
  rfl

theorem read_two : ruled.lexicon.read false "2".toList = .text "2".toList :=
  read_word (by decide) (by rfl) (by decide)

/-- After the call glue in a token is set apart. -/
theorem resolve_glue :
    ruled.resolve "fn-calc_1px_close_chrsl-slash_2".toList fresh =
      ("calc(1px) / 2".toList, fresh) := by
  have whole : ∀ token ∈ ["chrsl-slash".toList, "2".toList],
      Grammar.valueSeparator ∉ token ∧ token ≠ Grammar.close := by decide
  have each : ["chrsl-slash".toList, "2".toList].map
      (fun token => ruled.lexicon.readChunk (Chunk.ofToken token)) =
        [.glue "/".toList, .text "2".toList] := by
    rw [← read_two]
    rfl
  show ruled.resolve (width.followedBy ["chrsl-slash".toList, "2".toList]) fresh = _
  rw [resolve_width whole, each]
  rfl

/-- In a stream it is attached. -/
theorem resolveText_glue :
    ruled.resolveText "fn-calc_1px_close_chrsl-slash_2".toList fresh =
      ("calc(1px)/2".toList, fresh) := by
  have whole : ∀ token ∈ ["chrsl-slash".toList, "2".toList],
      Grammar.valueSeparator ∉ token ∧ token ≠ Grammar.close := by decide
  have last : ruled.lexicon.chunks ⟨4, ["2".toList]⟩ = [⟨.value, "2".toList⟩] :=
    Lexicon.chunks_of_single (by rfl) rfl
  have chunks : ruled.lexicon.chunks ⟨3, ["chrsl-slash".toList, "2".toList]⟩ =
      [⟨.glue, "slash".toList⟩, ⟨.value, "2".toList⟩] := by
    rw [← last]
    exact Lexicon.chunks_of_glue (by rfl) 3 _
  have stream : ruled.lexicon.readStream ⟨3, ["chrsl-slash".toList, "2".toList]⟩ =
      [.glue "/".toList, .text "2".toList] := by
    rw [Lexicon.readStream, chunks, ← read_two]
    rfl
  show ruled.resolveText (width.followedBy ["chrsl-slash".toList, "2".toList]) fresh = _
  rw [resolveText_width whole, stream]
  rfl

end Ruled

open Ruled in
/-- After a call a root value is lost in a token and recorded in a stream, and glue is set apart
in a token and attached in a stream. -/
theorem resolve_trailing_ne :
    ruled.resolve "fn-calc_1px_close_rval-x_red".toList fresh =
      ("calc(1px) var(--x) red".toList, fresh) ∧
    ruled.resolveText "fn-calc_1px_close_rval-x_red".toList fresh =
      ("calc(1px) var(--x)".toList, fresh.record "x".toList "red".toList) ∧
    ruled.resolve "fn-calc_1px_close_chrsl-slash_2".toList fresh ≠
      ruled.resolveText "fn-calc_1px_close_chrsl-slash_2".toList fresh := by
  refine ⟨resolve_rootValue, resolveText_rootValue, ?_⟩
  rw [resolve_glue, resolveText_glue]
  decide

end Environment

end AtomicCss
