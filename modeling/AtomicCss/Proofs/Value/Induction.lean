import AtomicCss.Proofs.Text.Splitting
import AtomicCss.Proofs.Value.Reading

/-!
Contract: induction over the values that tokens are read to.

Owns:
- the texts inside a token that its values are read from;
- the induction over tokens, where the values in the value of a token are those of shorter ones;
- what passes from the values in a value to the value itself, for the values that a lexicon can
  read from short texts;
- that it holds of every value read from a short token.

Does not own: any such property.

## Why the size of the text stands in the statement

Reading follows the length of the token: the tokens inside a value are shorter than the token of
the value.  A stream has chunks that cannot be counted only when it is long, so whether such a
value can be read at all depends on the size.
-/

namespace AtomicCss

/-! ## Texts inside tokens -/

namespace Lexicon

/-- What is given to a marked token stands in it. -/
theorem given_within (token : Text) (count : Nat) :
    Text.beyond Grammar.valueSeparator (token.drop count) <:+: token :=
  ((Text.beyond_suffix _).trans (List.drop_suffix _ _)).isInfix

/-- What holds of the glue and of the values of shorter tokens in the text that is given to a token,
and passes from items to their list, holds of all values that are read from the parameters of the
text. -/
theorem of_mem_parameters
    {lexicon : Lexicon}
    {Holds : Value → Prop}
    {token : Text}
    {count : Nat}
    (written : token ≠ [])
    (glue :
      ∀ name, name <:+: Text.beyond Grammar.valueSeparator (token.drop count) →
        Holds (.glue (lexicon.characterFor name)))
    (commaList : ∀ {items}, (∀ item ∈ items, Holds item) → Holds (.commaList items))
    (shorter :
      ∀ piece : Text, piece.length < token.length →
        piece <:+: Text.beyond Grammar.valueSeparator (token.drop count) →
          Holds (lexicon.read false piece))
    {piece : Text}
    (member : piece ∈ parameters (Text.beyond Grammar.valueSeparator (token.drop count))) :
    Holds (lexicon.read false piece) ∧ Holds (lexicon.argument piece) ∧
      Holds (lexicon.readChunk (Chunk.ofToken piece)) := by
  have less := length_lt_of_mem_parameters written member
  have within := Text.infix_of_mem_split member
  have value := shorter piece less within
  have glued {name : Text} (marked : Text.after? Grammar.glue piece = some name) :
      Holds (.glue (lexicon.characterFor name)) := by
    have last : name <:+ piece := ⟨Grammar.glue, (Text.after?_eq_some_iff.1 marked).symm⟩
    exact glue name (last.isInfix.trans within)
  refine ⟨value, ?_, ?_⟩
  · unfold argument
    split
    · exact glued ‹_›
    · refine commaList (List.forall_mem_map.2 fun part inside => ?_)
      have inside := infix_of_mem_argumentPieces inside
      exact shorter part (Nat.lt_of_le_of_lt inside.length_le less) (inside.trans within)
  · rw [readChunk_ofToken]
    split
    · exact glued ‹_›
    · exact value

end Lexicon

/-! ## Tokens -/

/-- A property of values that the tokens of some kind pass on: it holds of the value of a token
when it holds of those of the shorter ones, and of the value inside its quotes. -/
structure Lexicon.Progressive
    (lexicon : Lexicon)
    (Allowed : Text → Prop)
    (Holds : Value → Prop) : Prop where
  empty : Holds (.text [])
  unmarked :
    ∀ (quoted : Bool) (token : Text), Allowed token →
      Holds (.text (if quoted then token else Units.convert token))
  marked :
    ∀ (quoted : Bool) {token marker : Text} {kind : MarkerKind}, Allowed token → token ≠ [] →
      lexicon.markers.markerAt? (excluded quoted) token = some (marker, kind) →
      (∀ piece : Text, piece.length < token.length → Allowed piece →
        Holds (lexicon.read false piece)) →
      (kind = .quotedString → Allowed (token.drop marker.length) →
        Holds (lexicon.read true (token.drop marker.length))) →
      Holds (lexicon.markedValue kind token (token.drop marker.length))

namespace Lexicon.Progressive

variable {lexicon : Lexicon} {Allowed : Text → Prop} {Holds : Value → Prop}

theorem read_of_shorter
    (progressive : lexicon.Progressive Allowed Holds)
    (quoted : Bool)
    {token : Text}
    (allowed : Allowed token)
    (shorter :
      ∀ piece : Text, piece.length < token.length → Allowed piece →
        Holds (lexicon.read false piece))
    (inside :
      quoted = false → ∀ count, Allowed (token.drop count) →
        Holds (lexicon.read true (token.drop count))) :
    Holds (lexicon.read quoted token) := by
  by_cases written : token = []
  · rw [written, Lexicon.read]
    exact progressive.empty
  · cases marked : lexicon.markers.markerAt? (excluded quoted) token with
    | none =>
        rw [read_of_unmarked written marked]
        exact progressive.unmarked quoted token allowed
    | some found =>
        obtain ⟨marker, kind⟩ := found
        rw [read_of_marked quoted written marked]
        refine progressive.marked quoted allowed written marked shorter ?_
        rintro rfl
        have opens := (Registry.startsWith_of_markerAt? marked).1
        cases quoted with
        | false => exact inside rfl marker.length
        | true => exact absurd rfl opens

/-- By induction on the length of the token, first inside quotes, where no quotes open, and then
outside. -/
theorem read
    (progressive : lexicon.Progressive Allowed Holds)
    (quoted : Bool)
    {token : Text}
    (allowed : Allowed token) :
    Holds (lexicon.read quoted token) := by
  induction length : token.length using Nat.strongRecOn generalizing quoted token with
  | ind bound inductionHypothesis =>
      subst length
      have shorter (piece : Text) (less : piece.length < token.length) (allowed : Allowed piece) :
          Holds (lexicon.read false piece) :=
        inductionHypothesis piece.length less false allowed rfl
      have inside (count : Nat) (allowed : Allowed (token.drop count)) :
          Holds (lexicon.read true (token.drop count)) := by
        have shrunk : (token.drop count).length ≤ token.length := by simp
        refine progressive.read_of_shorter true allowed ?_ ?_
        · exact fun piece less => shorter piece (Nat.lt_of_lt_of_le less shrunk)
        · intro unquoted
          cases unquoted
      cases quoted with
      | false => exact progressive.read_of_shorter false allowed shorter fun _ => inside
      | true => exact inside 0 allowed

end Lexicon.Progressive

/-! ## Values of short texts -/

/-- A property of values that the values which a lexicon reads from texts of fewer characters
than `size` pass on: it holds of a value when it holds of the values in it. -/
structure Lexicon.Hereditary (lexicon : Lexicon) (size : Nat) (Holds : Value → Prop) : Prop where
  text : ∀ css, Holds (.text css)
  glue : ∀ character, Holds (.glue character)
  target :
    MarkerKind.targetSelector ∈ lexicon.markers.bindings.values →
      ∀ instructions, Holds (.target instructions)
  quoted : ∀ source {inner}, Holds inner → Holds (.quoted source inner)
  commaList : ∀ {items}, (∀ item ∈ items, Holds item) → Holds (.commaList items)
  rootValue : ∀ name {stream}, (∀ value ∈ stream, Holds value) → Holds (.rootValue name stream)
  template :
    ∀ source blueprint {arguments}, (∀ argument ∈ arguments, Holds argument) →
      Holds (.template source blueprint arguments)
  call :
    ∀ source name {arguments trailing}, (∀ argument ∈ arguments, Holds argument) →
      (∀ value ∈ trailing, Holds value) → Holds (.call source name arguments trailing)
  computed :
    MarkerKind.customFunction ∈ lexicon.markers.bindings.values →
      ∀ source function {arguments trailing}, (∀ argument ∈ arguments, Holds argument) →
        (∀ value ∈ trailing, Holds value) →
          Holds (.computed source function arguments trailing)
  outOfRange :
    ∀ stream : Text, stream.length < size →
      ∀ chunk ∈ lexicon.chunksOf stream, chunk.kind = .outOfRange → Holds .outOfRange

namespace Registry

theorem mem_values_of_markerAt?
    {registry : Registry}
    {excluded : Option MarkerKind}
    {token marker : Text}
    {kind : MarkerKind}
    (found : registry.markerAt? excluded token = some (marker, kind)) :
    kind ∈ registry.bindings.values :=
  List.mem_map_of_mem (List.mem_filter.1 (mem_of_longest? found)).1

end Registry

namespace Lexicon.Hereditary

variable {lexicon : Lexicon} {size : Nat} {Holds : Value → Prop}

theorem readChunk
    (hereditary : lexicon.Hereditary size Holds)
    {stream : Text}
    (short : stream.length < size)
    {chunk : Chunk}
    (member : chunk ∈ lexicon.chunksOf stream)
    (value : Holds (lexicon.read false chunk.text)) :
    Holds (lexicon.readChunk chunk) := by
  unfold Lexicon.readChunk
  split
  · exact hereditary.glue _
  · exact hereditary.outOfRange stream short chunk member ‹_›
  · exact value

/-- The property passes to a marked token, since the tokens of its values are shorter. -/
theorem markedValue
    (hereditary : lexicon.Hereditary size Holds)
    {token : Text}
    {kind : MarkerKind}
    {count : Nat}
    (written : token ≠ [])
    (short : token.length < size)
    (bound : kind ∈ lexicon.markers.bindings.values)
    (shorter : ∀ piece : Text, piece.length < token.length → Holds (lexicon.read false piece))
    (inside : kind = .quotedString → Holds (lexicon.read true (token.drop count))) :
    Holds (lexicon.markedValue kind token (token.drop count)) := by
  have parameter {piece : Text}
      (member : piece ∈
        parameters (Text.beyond Grammar.valueSeparator (token.drop count))) :=
    of_mem_parameters written (fun name _ => hereditary.glue _) hereditary.commaList
      (fun piece less _ => shorter piece less) member
  cases kind <;> unfold Lexicon.markedValue <;> dsimp only
  case hexColor | variableReference | customPropertyName | character | unicodeEscape
      | selectorGroup =>
    exact hereditary.text _
  case targetSelector => exact hereditary.target bound _
  case quotedString => exact hereditary.quoted _ (inside rfl)
  case rootValue =>
    split
    · exact hereditary.text _
    · rename_i stream given
      have beyond := Text.length_beyond?_lt given
      have streamShort : stream.length < size := by
        simp only [List.length_drop] at beyond
        omega
      refine hereditary.rootValue _ (List.forall_mem_map.2 fun chunk member => ?_)
      exact hereditary.readChunk streamShort member
        (shorter chunk.text (length_lt_of_mem_stream given member))
  case template =>
    split
    · exact hereditary.text _
    · split
      · exact hereditary.text _
      · exact hereditary.template _ _
          (List.forall_mem_map.2 fun piece member => (parameter member).1)
  case function =>
    split
    · exact hereditary.text _
    · refine hereditary.call _ _ (List.forall_mem_map.2 fun piece member => ?_)
        (List.forall_mem_map.2 fun piece member => ?_)
      · exact (parameter (mem_of_mem_beforeClose member)).2.1
      · exact (parameter (mem_of_mem_afterClose member)).2.2
  case customFunction =>
    split
    · exact hereditary.text _
    · refine hereditary.computed bound _ _ (List.forall_mem_map.2 fun piece member => ?_)
        (List.forall_mem_map.2 fun piece member => ?_)
      · exact (parameter (List.mem_filter.1 (mem_of_mem_beforeClose member)).1).1
      · exact (parameter (List.mem_filter.1 (mem_of_mem_afterClose member)).1).1

theorem progressive (hereditary : lexicon.Hereditary size Holds) :
    lexicon.Progressive (fun token => token.length < size) Holds where
  empty := hereditary.text []
  unmarked := fun quoted token _ => hereditary.text _
  marked := by
    intro quoted token marker kind short written marked shorter inside
    have bound := Registry.mem_values_of_markerAt? marked
    refine hereditary.markedValue written short bound ?_ fun opens => inside opens ?_
    · exact fun piece less => shorter piece less (Nat.lt_trans less short)
    · exact Nat.lt_of_le_of_lt (by simp) short

/-- It holds of every value read from a short token. -/
theorem read
    (hereditary : lexicon.Hereditary size Holds)
    (quoted : Bool)
    {token : Text}
    (short : token.length < size) :
    Holds (lexicon.read quoted token) :=
  hereditary.progressive.read quoted short

end Lexicon.Hereditary

end AtomicCss
