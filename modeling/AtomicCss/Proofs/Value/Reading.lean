import AtomicCss.Proofs.Value.Chunks
import AtomicCss.Value.Resolution

/-!
Contract: the values of tokens by the marker that they start with.

Owns:
- registries whose markers are words, which tell the kind of a value by its first token;
- the value of a token that no marker starts;
- the value of a token by the kind of its marker;
- streams of one value;
- a small environment with words, a character and root values.

Does not own: what makes a stream one value.
-/

namespace AtomicCss

/-! ## Markers that are words -/

namespace Registry

variable {registry : Registry}

/-- Every marker is a word: it is not empty, and no value separator stands in it. -/
def Words (registry : Registry) : Prop :=
  ∀ marker ∈ registry.bindings.keys, marker ≠ [] ∧ Grammar.valueSeparator ∉ marker

instance : Decidable registry.Words :=
  inferInstanceAs (Decidable (∀ marker ∈ registry.bindings.keys, _))

theorem markerAt?_nil (words : registry.Words) (excluded : Option MarkerKind) :
    registry.markerAt? excluded [] = none := by
  rw [markerAt?, longest?_eq_none_iff, candidates, List.filter_eq_nil_iff]
  intro entry member
  obtain ⟨written, _⟩ := words entry.1 (List.mem_map_of_mem member)
  have absent : Text.startsWith entry.1 [] = false := by
    cases marker : entry.1 with
    | nil => exact absurd marker written
    | cons first rest => rfl
  simp [absent]

/-- What follows a separator does not change the marker of a token. -/
theorem markerAt?_append_cons
    (words : registry.Words)
    (excluded : Option MarkerKind)
    (token rest : Text) :
    registry.markerAt? excluded (token ++ Grammar.valueSeparator :: rest) =
      registry.markerAt? excluded token := by
  have same : registry.candidates excluded (token ++ Grammar.valueSeparator :: rest) =
      registry.candidates excluded token := by
    refine List.filter_congr fun entry member => ?_
    obtain ⟨_, absent⟩ := words entry.1 (List.mem_map_of_mem member)
    congr 1
    rw [Bool.eq_iff_iff, Text.startsWith_iff_prefix, Text.startsWith_iff_prefix]
    exact Text.prefix_append_cons_iff absent token rest
  rw [markerAt?, markerAt?, same]

end Registry

/-- A token that is a chunk for itself. -/
def Chunk.ofToken (token : Text) : Chunk :=
  match Text.after? Grammar.glue token with
  | some name => ⟨.glue, name⟩
  | none => ⟨.value, token⟩

namespace Lexicon

variable {lexicon : Lexicon} {token : Text}

/-- A token that no marker starts stands for itself, outside quotes with its unit. -/
theorem read_of_unmarked
    {quoted : Bool}
    (written : token ≠ [])
    (unmarked : lexicon.markers.markerAt? (excluded quoted) token = none) :
    lexicon.read quoted token = .text (if quoted then token else Units.convert token) := by
  rw [read, if_neg written]
  split
  · rfl
  · simp_all

/-! ## Marked tokens -/

/-- The value of an argument of a call. -/
def argument (lexicon : Lexicon) (token : Text) : Value :=
  match Text.after? Grammar.glue token with
  | some character => .glue (lexicon.characterFor character)
  | none => .commaList ((lexicon.argumentPieces token).map (lexicon.read false))

theorem readChunk_ofToken (lexicon : Lexicon) (token : Text) :
    lexicon.readChunk (Chunk.ofToken token) =
      match Text.after? Grammar.glue token with
      | some character => .glue (lexicon.characterFor character)
      | none => lexicon.read false token := by
  unfold Chunk.ofToken
  cases Text.after? Grammar.glue token <;> rfl

/-- The value of a token with a marker of some kind, where `rest` follows the marker. -/
def markedValue (lexicon : Lexicon) (kind : MarkerKind) (token rest : Text) : Value :=
  let name := Text.before Grammar.valueSeparator rest
  let given := Text.beyond Grammar.valueSeparator rest
  match kind with
  | .hexColor => .text ('#' :: rest)
  | .variableReference => .text (reference rest)
  | .customPropertyName => .text ("--".toList ++ rest)
  | .character => .text (lexicon.characterFor rest)
  | .unicodeEscape => .text ('\\' :: rest)
  | .selectorGroup => .text ('(' :: rest ++ "),".toList)
  | .targetSelector => .target rest
  | .quotedString => .quoted token (lexicon.read true rest)
  | .rootValue =>
      match Text.beyond? Grammar.valueSeparator rest with
      | none => .text (reference name)
      | some stream => .rootValue name (lexicon.readSequence stream)
  | .template =>
      match lexicon.templates.get? name with
      | none => .text token
      | some template =>
          if given = [] then
            .text template.blueprint
          else
            .template token template ((parameters given).map (lexicon.read false))
  | .function =>
      if name = [] ∨ given = [] then
        .text token
      else
        .call token name ((beforeClose (parameters given)).map lexicon.argument)
          ((afterClose (parameters given)).map fun token =>
            lexicon.readChunk (Chunk.ofToken token))
  | .customFunction =>
      match lexicon.functions.get? name with
      | none => .text token
      | some function =>
          .computed token function
            ((beforeClose (filled given)).map (lexicon.read false))
            ((afterClose (filled given)).map (lexicon.read false))

theorem read_of_marked
    (quoted : Bool)
    {marker : Text}
    {kind : MarkerKind}
    (written : token ≠ [])
    (marked : lexicon.markers.markerAt? (excluded quoted) token = some (marker, kind)) :
    lexicon.read quoted token = lexicon.markedValue kind token (token.drop marker.length) := by
  -- The recursion carries where its tokens come from, which their values do not depend on.
  have every (tokens : List Text) :
      (tokens.attach.map fun token => lexicon.read false token.1) =
        tokens.map (lexicon.read false) :=
    List.attach_map_val
  rw [read, if_neg written]
  split
  · simp_all
  · rename_i first kind taken
    rw [marked] at taken
    cases taken
    cases kind <;> dsimp only <;> try rfl
    case rootValue =>
      unfold markedValue
      dsimp only
      split
      · rename_i none
        rw [none]
      · rename_i stream given
        rw [given]
        exact congrArg _ (List.attach_map_val (f := lexicon.readChunk))
    case template =>
      unfold markedValue
      dsimp only
      cases lexicon.templates.get? (Text.before Grammar.valueSeparator
        (token.drop marker.length)) with
      | none => rfl
      | some template =>
          dsimp only
          rw [every]
    case function =>
      unfold markedValue
      dsimp only
      let given := parameters (Text.beyond Grammar.valueSeparator (token.drop marker.length))
      congr 2
      · calc
          _ = (beforeClose given).attach.map (fun token => lexicon.argument token.1) := by
            apply List.map_congr_left
            intro token _
            unfold argument
            cases Text.after? Grammar.glue token.1 with
            | some character => rfl
            | none => exact congrArg Value.commaList (every _)
          _ = _ := List.attach_map_val
      · calc
          _ = (afterClose given).attach.map
              (fun token => lexicon.readChunk (Chunk.ofToken token.1)) := by
            apply List.map_congr_left
            intro token _
            exact (readChunk_ofToken lexicon token.1).symm
          _ = _ := List.attach_map_val (f := fun token => lexicon.readChunk (Chunk.ofToken token))
    case customFunction =>
      unfold markedValue
      dsimp only
      cases lexicon.functions.get? (Text.before Grammar.valueSeparator
        (token.drop marker.length)) with
      | none => rfl
      | some function =>
          dsimp only
          rw [every, every]

/-- Outside quotes a marker of quoted strings opens one, and right inside it no further
one. -/
theorem read_of_quotedString
    {marker : Text}
    (written : token ≠ [])
    (marked : lexicon.markers.markerAt? none token = some (marker, .quotedString)) :
    lexicon.read false token = .quoted token (lexicon.read true (token.drop marker.length)) :=
  read_of_marked false written marked

/-- Outside quotes a marker of root values takes the name up to the separator, and what
follows it as a stream. -/
theorem read_of_rootValue
    {marker stream : Text}
    (written : token ≠ [])
    (marked : lexicon.markers.markerAt? none token = some (marker, .rootValue))
    (given :
      Text.beyond? Grammar.valueSeparator (token.drop marker.length) = some stream) :
    lexicon.read false token =
      .rootValue (Text.before Grammar.valueSeparator (token.drop marker.length))
        (lexicon.readSequence stream) := by
  rw [read_of_marked false written marked, markedValue, given]

/-- Without a value it is a reference to the name. -/
theorem read_of_loneRootValue
    {marker : Text}
    (written : token ≠ [])
    (marked : lexicon.markers.markerAt? none token = some (marker, .rootValue))
    (alone :
      Text.beyond? Grammar.valueSeparator (token.drop marker.length) = none) :
    lexicon.read false token =
      .text (reference (Text.before Grammar.valueSeparator (token.drop marker.length))) := by
  rw [read_of_marked false written marked, markedValue, alone]

/-- Outside quotes a marker of functions takes the name up to the separator, and the
parameters before and after the first `close`. -/
theorem read_of_function
    {marker : Text}
    (marked : lexicon.markers.markerAt? none token = some (marker, .function))
    (named : Text.before Grammar.valueSeparator (token.drop marker.length) ≠ [])
    (given : Text.beyond Grammar.valueSeparator (token.drop marker.length) ≠ []) :
    let tokens := parameters (Text.beyond Grammar.valueSeparator (token.drop marker.length))
    lexicon.read false token =
      .call token (Text.before Grammar.valueSeparator (token.drop marker.length))
        ((beforeClose tokens).map lexicon.argument)
        ((afterClose tokens).map fun token => lexicon.readChunk (Chunk.ofToken token)) := by
  intro tokens
  have written : token ≠ [] := by
    rintro rfl
    exact named (by simp [Text.before])
  rw [read_of_marked false written marked, markedValue, if_neg (not_or.2 ⟨named, given⟩)]

/-! ## Streams of one value -/

theorem chunks_of_single
    {cursor remaining : Cursor}
    {chunk : Chunk}
    (first : lexicon.nextChunk? cursor = some (chunk, remaining))
    (done : remaining.rest = []) :
    lexicon.chunks cursor = [chunk] := by
  obtain ⟨position, rest⟩ := remaining
  obtain rfl : rest = [] := done
  rw [chunks_of_nextChunk? first, chunks_nil]

end Lexicon

namespace Environment

variable {environment : Environment} {token : Text}

/-- A stream of one value is resolved as the token that the value is read from. -/
theorem resolveStream_of_single
    {cursor remaining : Cursor}
    (first : environment.lexicon.nextChunk? cursor = some (⟨.value, token⟩, remaining))
    (done : remaining.rest = [])
    (state : Expansion) :
    environment.resolveStream cursor state = environment.resolve token state := by
  rw [resolveStream, Lexicon.readStream, Lexicon.chunks_of_single first done]
  simp [Value.evalStream, Value.evalAll, Lexicon.readChunk, resolve, Piece.stream, Piece.words]

theorem resolve_of_unmarked
    (written : token ≠ [])
    (unmarked : environment.lexicon.markers.markerAt? none token = none)
    (state : Expansion) :
    environment.resolve token state = (Units.convert token, state) := by
  rw [resolve, Lexicon.read_of_unmarked written unmarked]
  rfl

/-! ### A small environment -/

/-- An environment with the default markers and the name of a character. -/
def ruled : Environment :=
  ⟨Lexicon.empty.addCharacter "slash".toList "/".toList, ⟨0, none, []⟩⟩

namespace Ruled

/-- The start of a class name. -/
def fresh : Expansion :=
  Expansion.start "cssf--w".toList 15

/-- A word that has no marker and no unit stands for itself. -/
theorem read_word
    {word : Text}
    (written : word ≠ [])
    (unmarked : ruled.lexicon.markers.markerAt? none word = none)
    (plain : Units.convert word = word) :
    ruled.lexicon.read false word = .text word := by
  have read : ruled.lexicon.read false word = .text (Units.convert word) :=
    Lexicon.read_of_unmarked written unmarked
  rw [read, plain]

theorem read_red : ruled.lexicon.read false "red".toList = .text "red".toList :=
  read_word (by decide) (by rfl) (by decide)

/-- A root value with a word for its value. -/
theorem read_rootValue :
    ruled.lexicon.read false "rval-x_red".toList =
      .rootValue "x".toList [.text "red".toList] := by
  have marked : ruled.lexicon.markers.markerAt? none "rval-x_red".toList =
      some (Grammar.rootValue, .rootValue) := by rfl
  have chunks : ruled.lexicon.chunksOf "red".toList = [⟨.value, "red".toList⟩] :=
    Lexicon.chunks_of_single (by rfl) rfl
  have value : ruled.lexicon.readSequence "red".toList = [.text "red".toList] := by
    show (ruled.lexicon.chunksOf "red".toList).map ruled.lexicon.readChunk = _
    rw [chunks]
    exact congrArg (fun value => [value]) read_red
  rw [← value]
  exact Lexicon.read_of_rootValue (by decide) marked (by rfl)

end Ruled

end Environment

end AtomicCss
