import AtomicCss.Value.Chunk
import AtomicCss.Value.Basic

/-!
Contract: the value that a token stands for under a lexicon.

Owns:
- the pieces of a function argument;
- reading a token, which may carry further tokens as its arguments;
- reading a stream of tokens.

Does not own: the text of a value.  Reading depends on the lexicon and on nothing
else.
-/

namespace AtomicCss.Lexicon

/-! ## Function arguments -/

/-- A minus sign and a number without a further dash. -/
def isNegativeNumber (argument : Text) : Bool :=
  argument.head? = some '-' && Units.isNumeric argument && !argument.tail.contains '-'

/-- The pieces between dashes, where a bare marker belongs to the piece after it. -/
def rejoinMarkers (lexicon : Lexicon) : List Text → List Text
  | [] => []
  | [piece] => [piece]
  | piece :: next :: others =>
      if lexicon.markers.isMarkerWord piece then
        (piece ++ Grammar.dash :: next) :: rejoinMarkers lexicon others
      else
        piece :: rejoinMarkers lexicon (next :: others)

/-- The pieces of a function argument.  A negative number and a token with a
marker are one piece. -/
def argumentPieces (lexicon : Lexicon) (argument : Text) : List Text :=
  if isNegativeNumber argument || (lexicon.markers.markerAt? none argument).isSome then
    [argument]
  else
    lexicon.rejoinMarkers (Cursor.tokens Grammar.dash argument)

theorem infix_of_mem_rejoinMarkers
    {lexicon : Lexicon}
    {pieces : List Text}
    {piece : Text}
    (member : piece ∈ lexicon.rejoinMarkers pieces) :
    piece <:+: Text.join Grammar.dash pieces := by
  fun_induction rejoinMarkers lexicon pieces with
  | case1 => cases member
  | case2 only =>
      rw [List.mem_singleton.1 member]
      exact Text.infix_join_of_mem List.mem_cons_self
  | case3 first next others bare inductionHypothesis =>
      rcases List.mem_cons.1 member with rfl | later
      · have front := Text.join_prefix Grammar.dash (List.prefix_append [first, next] others)
        simpa [Text.join] using front.isInfix
      · have last := Text.join_suffix Grammar.dash (List.suffix_append [first, next] others)
        exact (inductionHypothesis later).trans last.isInfix
  | case4 first next others bare inductionHypothesis =>
      rcases List.mem_cons.1 member with rfl | later
      · exact Text.infix_join_of_mem List.mem_cons_self
      · have last := Text.join_suffix Grammar.dash (List.suffix_cons first (next :: others))
        exact (inductionHypothesis later).trans last.isInfix

/-- The pieces of an argument stand in it. -/
theorem infix_of_mem_argumentPieces
    {lexicon : Lexicon}
    {argument piece : Text}
    (member : piece ∈ lexicon.argumentPieces argument) :
    piece <:+: argument := by
  unfold argumentPieces at member
  split at member
  · obtain rfl := List.mem_singleton.1 member
    exact List.infix_rfl
  · have inside := infix_of_mem_rejoinMarkers member
    rwa [Cursor.join_tokens] at inside

/-! ## Tokens of a call -/

/-- The tokens that are left when a text is cut at the value separator. -/
def parameters (text : Text) : List Text :=
  Text.split Grammar.valueSeparator text

/-- The parameters that are not empty. -/
def filled (text : Text) : List Text :=
  (parameters text).filter fun parameter => !parameter.isEmpty

/-- The parameters before the first `close`. -/
def beforeClose (tokens : List Text) : List Text :=
  tokens.takeWhile (· ≠ Grammar.close)

/-- The parameters after the first `close`, without any other `close`. -/
def afterClose (tokens : List Text) : List Text :=
  (tokens.dropWhile (· ≠ Grammar.close)).filter (· ≠ Grammar.close)

theorem mem_of_mem_beforeClose {tokens : List Text} {token : Text}
    (member : token ∈ beforeClose tokens) : token ∈ tokens :=
  (List.takeWhile_sublist _).subset member

theorem mem_of_mem_afterClose {tokens : List Text} {token : Text}
    (member : token ∈ afterClose tokens) : token ∈ tokens :=
  (List.dropWhile_sublist _).subset (List.mem_filter.1 member).1

/-- A parameter of a token is shorter than the token. -/
theorem length_lt_of_mem_parameters
    {token piece : Text}
    {count : Nat}
    (nonempty : token ≠ [])
    (member :
      piece ∈ parameters (Text.beyond Grammar.valueSeparator (token.drop count))) :
    piece.length < token.length := by
  have bound := Text.length_le_of_mem_split member
  have positive := List.length_pos_iff.2 nonempty
  unfold Text.beyond at bound
  cases found : Text.beyond? Grammar.valueSeparator (token.drop count) with
  | none =>
      rw [found] at bound
      simp only [Option.getD_none, List.length_nil] at bound
      omega
  | some rest =>
      rw [found] at bound
      have shorter := Text.length_beyond?_lt found
      simp only [Option.getD_some, List.length_drop] at bound shorter
      omega

/-- A chunk of the stream of a token is shorter than the token. -/
theorem length_lt_of_mem_stream
    {lexicon : Lexicon}
    {token stream : Text}
    {count : Nat}
    {chunk : Chunk}
    (found : Text.beyond? Grammar.valueSeparator (token.drop count) = some stream)
    (member : chunk ∈ lexicon.chunksOf stream) :
    chunk.text.length < token.length := by
  have bound := length_le_of_mem_chunksOf member
  have shorter := Text.length_beyond?_lt found
  simp only [List.length_drop] at shorter
  omega

/-! ## Reading -/

/-- The kind of value that is not looked for inside quotes. -/
def excluded (quoted : Bool) : Option MarkerKind :=
  if quoted then some .quotedString else none

/-- The reference to a custom property. -/
def reference (name : Text) : Text :=
  "var(--".toList ++ name ++ [')']

/-- The value of a token.  Right inside quotes no further quotes open, and a token
without a marker stands for itself; elsewhere such a token takes its unit. -/
def read (lexicon : Lexicon) (quoted : Bool) (token : Text) : Value :=
  if token = [] then
    .text []
  else
    match _found : lexicon.markers.markerAt? (excluded quoted) token with
    | none => .text (if quoted then token else Units.convert token)
    | some (marker, kind) =>
        let rest := token.drop marker.length
        let name := Text.before Grammar.valueSeparator rest
        let given := Text.beyond Grammar.valueSeparator rest
        match kind with
        | .hexColor => .text ('#' :: rest)
        | .variableReference => .text (reference rest)
        | .customPropertyName => .text ("--".toList ++ rest)
        | .character => .text (lexicon.characterFor rest)
        | .unicodeEscape => .text ('\\' :: rest)
        | .selectorGroup => .text ('(' :: rest ++ "),".toList)
        | .targetSelector => .target rest
        | .quotedString => .quoted token (read lexicon true rest)
        | .rootValue =>
            match _stream : Text.beyond? Grammar.valueSeparator rest with
            | none => .text (reference name)
            | some stream =>
                .rootValue name <| (lexicon.chunksOf stream).attach.map fun chunk =>
                  match chunk.1.kind with
                  | .glue => .glue (lexicon.characterFor chunk.1.text)
                  | .outOfRange => .outOfRange
                  | .value => read lexicon false chunk.1.text
        | .template =>
            match lexicon.templates.get? name with
            | none => .text token
            | some template =>
                if given = [] then
                  .text template.blueprint
                else
                  .template token template <|
                    (parameters given).attach.map fun parameter =>
                      read lexicon false parameter.1
        | .function =>
            if name = [] ∨ given = [] then
              .text token
            else
              .call token name
                ((beforeClose (parameters given)).attach.map fun argument =>
                  match Text.after? Grammar.glue argument.1 with
                  | some character => .glue (lexicon.characterFor character)
                  | none =>
                      .commaList <| (lexicon.argumentPieces argument.1).attach.map fun piece =>
                        read lexicon false piece.1)
                ((afterClose (parameters given)).attach.map fun parameter =>
                  match Text.after? Grammar.glue parameter.1 with
                  | some character => .glue (lexicon.characterFor character)
                  | none => read lexicon false parameter.1)
        | .customFunction =>
            match lexicon.functions.get? name with
            | none => .text token
            | some function =>
                .computed token function
                  ((beforeClose (filled given)).attach.map fun parameter =>
                    read lexicon false parameter.1)
                  ((afterClose (filled given)).attach.map fun parameter =>
                    read lexicon false parameter.1)
termination_by (token.length, if quoted then 0 else 1)
decreasing_by
  all_goals rw [Prod.lex_def]
  · have unquoted : quoted = false := by
      have allowed := (Registry.startsWith_of_markerAt? _found).1
      cases quoted <;> simp_all [excluded]
    simp only [List.length_drop, unquoted]
    simp
    omega
  · exact Or.inl (length_lt_of_mem_stream _stream chunk.2)
  · exact Or.inl (length_lt_of_mem_parameters ‹_› parameter.2)
  · exact Or.inl (Nat.lt_of_le_of_lt ((infix_of_mem_argumentPieces piece.2).length_le)
      (length_lt_of_mem_parameters ‹_› (mem_of_mem_beforeClose argument.2)))
  · exact Or.inl
      (length_lt_of_mem_parameters ‹_› (mem_of_mem_afterClose parameter.2))
  · exact Or.inl (length_lt_of_mem_parameters ‹_›
      (List.mem_filter.1 (mem_of_mem_beforeClose parameter.2)).1)
  · exact Or.inl (length_lt_of_mem_parameters ‹_›
      (List.mem_filter.1 (mem_of_mem_afterClose parameter.2)).1)

/-- The value of a chunk of a stream. -/
def readChunk (lexicon : Lexicon) (chunk : Chunk) : Value :=
  match chunk.kind with
  | .glue => .glue (lexicon.characterFor chunk.text)
  | .outOfRange => .outOfRange
  | .value => lexicon.read false chunk.text

/-- The values of a stream of tokens. -/
def readStream (lexicon : Lexicon) (cursor : Cursor) : List Value :=
  (lexicon.chunks cursor).map lexicon.readChunk

/-- The values of the tokens of a text. -/
def readSequence (lexicon : Lexicon) (text : Text) : List Value :=
  lexicon.readStream (Cursor.ofText Grammar.valueSeparator text)

end AtomicCss.Lexicon
