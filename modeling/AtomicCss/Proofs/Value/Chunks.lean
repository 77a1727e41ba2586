import AtomicCss.Proofs.Text.Splitting
import AtomicCss.Value.Chunk

/-!
Contract: how a stream of tokens is cut into chunks.

Owns:
- the first value and the first chunk of a stream, and the induction along the chunks;
- the chunks at the ends of a stream that are not glue;
- closed streams, in which no value asks for a token that is not there;
- the chunks of a stream that continues a closed one, and of a stream at another place;
- the tokens of chunks, which make up the stream.

Does not own: what a chunk means as a value.

## Why the place matters

What a value takes depends on the tokens after it alone.  The place only matters for a template
with more arguments than tokens are left: the place that its last argument would have must be a
64-bit word, and further tokens in front move it up.
-/

namespace AtomicCss

/-- The tokens that a chunk is made of. -/
def Chunk.tokens (chunk : Chunk) : List Text :=
  match chunk.kind with
  | .glue => [Grammar.glue ++ chunk.text]
  | .value | .outOfRange => Text.split Grammar.valueSeparator chunk.text

theorem Cursor.length_takeThrough (cursor : Cursor) (sentinel : Text) :
    (cursor.takeThrough sentinel).1.1.length =
      ((cursor.rest.findIdx? (· = sentinel)).map (· + 1)).getD cursor.rest.length := by
  unfold takeThrough find?
  cases found : cursor.rest.findIdx? (· = sentinel) with
  | none => simp [takeRest, take, remaining]
  | some offset =>
      obtain ⟨inside, _⟩ := List.findIdx?_eq_some_iff_getElem.1 found
      simp [take]
      omega

/-- Where so many tokens can be counted, they can be counted from a place further in front. -/
theorem Cursor.Addressable.of_le
    {first second : Nat}
    {rest : List Text}
    {count : Nat}
    (counted : Cursor.Addressable ⟨second, rest⟩ count)
    (before : first ≤ second) :
    Cursor.Addressable ⟨first, rest⟩ count := by
  rcases counted with enough | small
  · exact Or.inl enough
  · exact Or.inr (Nat.lt_of_le_of_lt (Nat.add_le_add_right before count) small)

namespace Lexicon

variable {lexicon : Lexicon}

/-! ## The first chunk -/

theorem chunks_nil (position : Nat) : lexicon.chunks ⟨position, []⟩ = [] := by
  rw [chunks]
  rfl

theorem chunks_of_nextChunk?
    {cursor remaining : Cursor}
    {chunk : Chunk}
    (first : lexicon.nextChunk? cursor = some (chunk, remaining)) :
    lexicon.chunks cursor = chunk :: lexicon.chunks remaining := by
  rw [chunks]
  split
  · simp_all
  · rename_i next rest taken
    rw [first] at taken
    cases taken
    rfl

theorem chunks_of_glue
    {token name : Text}
    (marked : Text.after? Grammar.glue token = some name)
    (position : Nat)
    (rest : List Text) :
    lexicon.chunks ⟨position, token :: rest⟩ =
      ⟨.glue, name⟩ :: lexicon.chunks ⟨position + 1, rest⟩ := by
  apply chunks_of_nextChunk?
  simp [nextChunk?, Cursor.peek?, marked]

/-- The number of tokens that a token takes, whatever its place. -/
theorem span_eq (token : Text) (position : Nat) (rest : List Text) :
    lexicon.span token ⟨position, rest⟩ = lexicon.span token (Cursor.ofTokens rest) := by
  unfold span
  split <;> simp only [Cursor.length_takeThrough, Cursor.ofTokens]

theorem consume?_cons (token : Text) (position : Nat) (rest : List Text) :
    let count := lexicon.span token (Cursor.ofTokens rest)
    lexicon.consume? ⟨position, token :: rest⟩ =
      some
        (if Cursor.Addressable ⟨position + 1, rest⟩ count then
            ⟨.value, Text.join Grammar.valueSeparator (token :: rest.take count)⟩
          else
            ⟨.outOfRange, token⟩,
          ⟨position + 1 + min count rest.length, rest.drop count⟩) := by
  intro count
  have same : lexicon.span token ⟨position + 1, rest⟩ = count := span_eq token _ rest
  simp only [consume?, Cursor.next?, Option.map_some, same, Cursor.take]
  split <;> rfl

theorem kind_of_consume?
    {cursor remaining : Cursor}
    {chunk : Chunk}
    (read : lexicon.consume? cursor = some (chunk, remaining)) :
    chunk.kind ≠ .glue := by
  obtain ⟨token, rest, count, _, _, rfl | rfl⟩ := exists_of_consume? read
  · simp
  · simp

/-- A value takes its tokens from the front. -/
theorem exists_taken_of_consume?
    {cursor remaining : Cursor}
    {chunk : Chunk}
    (read : lexicon.consume? cursor = some (chunk, remaining)) :
    ∃ taken, taken ++ remaining.rest = cursor.rest := by
  obtain ⟨token, rest, count, there, left, _⟩ := exists_of_consume? read
  refine ⟨token :: rest.take count, ?_⟩
  rw [there, left, List.cons_append, List.take_append_drop]

theorem chunks_of_value
    {token : Text}
    (plain : Text.after? Grammar.glue token = none)
    (position : Nat)
    (rest : List Text) :
    let count := lexicon.span token (Cursor.ofTokens rest)
    lexicon.chunks ⟨position, token :: rest⟩ =
      (if Cursor.Addressable ⟨position + 1, rest⟩ count then
          ⟨.value, Text.join Grammar.valueSeparator (token :: rest.take count)⟩
        else
          ⟨.outOfRange, token⟩) ::
        lexicon.chunks ⟨position + 1 + min count rest.length, rest.drop count⟩ := by
  intro count
  apply chunks_of_nextChunk?
  simp only [nextChunk?, Cursor.peek?, List.head?_cons, Option.bind_some, plain]
  exact consume?_cons token position rest

/-- Induction along the chunks of a stream. -/
theorem stream_induction
    (lexicon : Lexicon)
    {motive : List Text → Prop}
    (nil : motive [])
    (glue :
      ∀ (token name : Text) (rest : List Text),
        Text.after? Grammar.glue token = some name → motive rest → motive (token :: rest))
    (value :
      ∀ (token : Text) (rest : List Text),
        Text.after? Grammar.glue token = none →
        motive (rest.drop (lexicon.span token (Cursor.ofTokens rest))) →
        motive (token :: rest)) :
    ∀ tokens, motive tokens
  | [] => nil
  | token :: rest =>
      match marked : Text.after? Grammar.glue token with
      | some name => glue token name rest marked (stream_induction lexicon nil glue value rest)
      | none => value token rest marked (stream_induction lexicon nil glue value _)
termination_by tokens => tokens.length

/-! ## Glue at the ends -/

theorem chunks_ne_nil (position : Nat) {tokens : List Text} (nonempty : tokens ≠ []) :
    lexicon.chunks ⟨position, tokens⟩ ≠ [] := by
  obtain ⟨token, rest, rfl⟩ := List.exists_cons_of_ne_nil nonempty
  cases marked : Text.after? Grammar.glue token with
  | none => simp [chunks_of_value marked]
  | some name => simp [chunks_of_glue marked]

/-- The last value of a stream that does not end with a glue token is not glue. -/
theorem kind_of_getLast?_chunks
    {tokens : List Text}
    (plain : ∀ token ∈ tokens.getLast?, Text.after? Grammar.glue token = none)
    (position : Nat) :
    ∀ chunk ∈ (lexicon.chunks ⟨position, tokens⟩).getLast?, chunk.kind ≠ .glue := by
  induction tokens using stream_induction lexicon generalizing position with
  | nil => simp [chunks_nil]
  | glue token name rest marked inductionHypothesis =>
      cases rest with
      | nil =>
          have absent : Text.after? Grammar.glue token = none := plain token rfl
          rw [marked] at absent
          cases absent
      | cons next others =>
          rw [List.getLast?_cons_cons] at plain
          rw [chunks_of_glue marked,
            List.getLast?_cons_of_ne_nil (chunks_ne_nil _ (List.cons_ne_nil next others))]
          exact inductionHypothesis plain (position + 1)
  | value token rest absent inductionHypothesis =>
      rw [chunks_of_value absent]
      by_cases done : rest.drop (lexicon.span token (Cursor.ofTokens rest)) = []
      · rw [done, chunks_nil]
        rintro chunk last
        obtain rfl := Option.some.inj last
        split <;> simp
      · have inside : ¬ rest.length ≤ lexicon.span token (Cursor.ofTokens rest) := fun short =>
          done (List.drop_eq_nil_of_le short)
        have same :
            (rest.drop (lexicon.span token (Cursor.ofTokens rest))).getLast? =
              (token :: rest).getLast? := by
          have others : rest ≠ [] := by
            rintro rfl
            exact inside (Nat.zero_le _)
          rw [List.getLast?_drop, if_neg inside, List.getLast?_cons_of_ne_nil others]
        rw [← same] at plain
        rw [List.getLast?_cons_of_ne_nil (chunks_ne_nil _ done)]
        exact inductionHypothesis plain _

/-- The first value of a stream that does not start with a glue token is not glue. -/
theorem kind_of_head?_chunks
    {tokens : List Text}
    (plain : ∀ token ∈ tokens.head?, Text.after? Grammar.glue token = none)
    (position : Nat) :
    ∀ chunk ∈ (lexicon.chunks ⟨position, tokens⟩).head?, chunk.kind ≠ .glue := by
  cases tokens with
  | nil => simp [chunks_nil]
  | cons token rest =>
      rw [chunks_of_value (plain token rfl)]
      rintro chunk first
      obtain rfl := Option.some.inj first
      split <;> simp

/-! ## Closed streams -/

/-- The tokens that a value takes from those after its first one are all there: a function is
closed, a template has as many as it has arguments, a root value has its value. -/
def Complete (lexicon : Lexicon) (token : Text) (rest : List Text) : Prop :=
  match lexicon.markers.markerAt? none token with
  | some (_, .function) | some (_, .customFunction) => Grammar.close ∈ rest
  | some (marker, .template) =>
      ((lexicon.templates.get? (token.drop marker.length)).map Template.arity).getD 0 ≤
        rest.length
  | some (_, .rootValue) => rest ≠ []
  | _ => True

/-- Streams all of whose values are complete. -/
inductive Closed (lexicon : Lexicon) : List Text → Prop where
  | nil : Closed lexicon []
  | glue
      {token name : Text}
      {rest : List Text}
      (marked : Text.after? Grammar.glue token = some name)
      (others : Closed lexicon rest) :
      Closed lexicon (token :: rest)
  | value
      {token : Text}
      {rest : List Text}
      (plain : Text.after? Grammar.glue token = none)
      (complete : lexicon.Complete token rest)
      (others : Closed lexicon (rest.drop (lexicon.span token (Cursor.ofTokens rest)))) :
      Closed lexicon (token :: rest)

/-- A complete value takes no more tokens than there are, and the same ones when more tokens
follow. -/
theorem span_of_complete
    {token : Text}
    {rest : List Text}
    (complete : lexicon.Complete token rest)
    (more : List Text) :
    lexicon.span token (Cursor.ofTokens rest) ≤ rest.length ∧
      lexicon.span token (Cursor.ofTokens (rest ++ more)) =
        lexicon.span token (Cursor.ofTokens rest) := by
  have throughClose (member : Grammar.close ∈ rest) :
      ((Cursor.ofTokens rest).takeThrough Grammar.close).1.1.length ≤ rest.length ∧
        ((Cursor.ofTokens (rest ++ more)).takeThrough Grammar.close).1.1.length =
          ((Cursor.ofTokens rest).takeThrough Grammar.close).1.1.length := by
    simp only [Cursor.length_takeThrough, Cursor.ofTokens, List.findIdx?_append]
    cases found : rest.findIdx? (· = Grammar.close) with
    | none =>
        have absent := List.findIdx?_eq_none_iff.1 found Grammar.close member
        simp at absent
    | some offset =>
        obtain ⟨inside, _⟩ := List.findIdx?_eq_some_iff_getElem.1 found
        exact ⟨inside, rfl⟩
  unfold Complete at complete
  split at complete
  · rename_i marked
    simp only [span, marked]
    exact throughClose complete
  · rename_i marked
    simp only [span, marked]
    exact throughClose complete
  · rename_i marked
    simp only [span, marked]
    exact ⟨complete, trivial⟩
  · rename_i marked
    simp only [span, marked]
    exact ⟨List.length_pos_iff.2 complete, trivial⟩
  · have alone (following : Cursor) : lexicon.span token following = 0 := by
      unfold span
      split <;> simp_all
    simp only [alone]
    exact ⟨Nat.zero_le _, trivial⟩

/-- After a closed stream the chunks of the tokens that follow are those that they have by
themselves at their place. -/
theorem chunks_append
    {tokens : List Text}
    (closed : lexicon.Closed tokens)
    (position : Nat)
    (more : List Text) :
    lexicon.chunks ⟨position, tokens ++ more⟩ =
      lexicon.chunks ⟨position, tokens⟩ ++
        lexicon.chunks ⟨position + tokens.length, more⟩ := by
  induction closed generalizing position with
  | nil => rw [chunks_nil]; rfl
  | @glue token name rest marked others inductionHypothesis =>
      rw [List.cons_append, chunks_of_glue marked, chunks_of_glue marked,
        inductionHypothesis, List.length_cons, List.cons_append, Nat.add_assoc,
        Nat.add_comm 1]
  | @value token rest plain complete others inductionHypothesis =>
      obtain ⟨enough, same⟩ := span_of_complete complete more
      have counted (after : List Text) :
          Cursor.Addressable ⟨position + 1, rest ++ after⟩
            (lexicon.span token (Cursor.ofTokens rest)) :=
        Or.inl (by simp only [Cursor.remaining, List.length_append]; omega)
      have alone := counted []
      rw [List.append_nil] at alone
      have place :
          position + 1 + lexicon.span token (Cursor.ofTokens rest) +
              (rest.drop (lexicon.span token (Cursor.ofTokens rest))).length =
            position + (token :: rest).length := by
        rw [List.length_drop, List.length_cons]
        omega
      rw [List.cons_append, chunks_of_value plain, chunks_of_value plain, same,
        if_pos (counted more), if_pos alone, List.take_append_of_le_length enough,
        List.drop_append_of_le_length enough, Nat.min_eq_left enough,
        Nat.min_eq_left (by rw [List.length_append]; omega), inductionHypothesis, place,
        List.cons_append]

/-- After a closed text and a separator come the chunks of the tokens that follow, from the place
where the closed ones end. -/
theorem chunksOf_joined
    {first second : Text}
    (firstWritten : first ≠ [])
    (secondWritten : second ≠ [])
    (closed : lexicon.Closed (Cursor.tokens Grammar.valueSeparator first)) :
    lexicon.chunksOf (first ++ Grammar.valueSeparator :: second) =
      lexicon.chunksOf first ++
        lexicon.chunks
          ⟨(Cursor.tokens Grammar.valueSeparator first).length,
            Cursor.tokens Grammar.valueSeparator second⟩ := by
  rw [chunksOf, Cursor.ofText, Cursor.ofTokens,
    Cursor.tokens_append_cons firstWritten secondWritten, chunks_append closed, Nat.zero_add]
  rfl

/-! ## Streams at another place -/

/-- Every token that a template of the stream asks for has a place that is a 64-bit word. -/
def Counts (lexicon : Lexicon) (cursor : Cursor) : Prop :=
  ∀ chunk ∈ lexicon.chunks cursor, chunk.kind ≠ .outOfRange

theorem counts_glue
    {token name : Text}
    (marked : Text.after? Grammar.glue token = some name)
    (position : Nat)
    (rest : List Text) :
    lexicon.Counts ⟨position, token :: rest⟩ ↔ lexicon.Counts ⟨position + 1, rest⟩ := by
  simp [Counts, chunks_of_glue marked]

theorem counts_value
    {token : Text}
    (plain : Text.after? Grammar.glue token = none)
    (position : Nat)
    (rest : List Text) :
    let count := lexicon.span token (Cursor.ofTokens rest)
    lexicon.Counts ⟨position, token :: rest⟩ ↔
      Cursor.Addressable ⟨position + 1, rest⟩ count ∧
        lexicon.Counts ⟨position + 1 + min count rest.length, rest.drop count⟩ := by
  intro count
  simp only [Counts, chunks_of_value plain, List.forall_mem_cons]
  refine and_congr_left fun _ => ?_
  split <;> simp_all [count]

/-- A closed stream can be counted from everywhere. -/
theorem counts_of_closed
    {tokens : List Text}
    (closed : lexicon.Closed tokens)
    (position : Nat) :
    lexicon.Counts ⟨position, tokens⟩ := by
  induction closed generalizing position with
  | nil => simp [Counts, chunks_nil]
  | @glue token name rest marked others inductionHypothesis =>
      exact (counts_glue marked position rest).2 (inductionHypothesis (position + 1))
  | @value token rest plain complete others inductionHypothesis =>
      obtain ⟨enough, _⟩ := span_of_complete complete []
      exact (counts_value plain position rest).2 ⟨Or.inl enough, inductionHypothesis _⟩

/-- A stream that can be counted has the same chunks at every place further in front. -/
theorem chunks_of_counts
    {tokens : List Text}
    {first second : Nat}
    (before : first ≤ second)
    (counts : lexicon.Counts ⟨second, tokens⟩) :
    lexicon.chunks ⟨second, tokens⟩ = lexicon.chunks ⟨first, tokens⟩ := by
  induction tokens using stream_induction lexicon generalizing first second with
  | nil => rw [chunks_nil, chunks_nil]
  | glue token name rest marked inductionHypothesis =>
      have later := (counts_glue marked second rest).1 counts
      rw [chunks_of_glue marked, chunks_of_glue marked,
        inductionHypothesis (Nat.add_le_add_right before 1) later]
  | value token rest plain inductionHypothesis =>
      obtain ⟨counted, later⟩ := (counts_value plain second rest).1 counts
      have moved := counted.of_le (Nat.add_le_add_right before 1)
      have further :
          first + 1 + min (lexicon.span token (Cursor.ofTokens rest)) rest.length ≤
            second + 1 + min (lexicon.span token (Cursor.ofTokens rest)) rest.length := by
        omega
      rw [chunks_of_value plain, chunks_of_value plain, if_pos counted, if_pos moved,
        inductionHypothesis further later]

/-! ## The tokens of chunks -/

/-- Every token of a stream is a token of exactly one chunk, and the chunks have the tokens in
their order. -/
theorem flatMap_tokens_chunks
    {tokens : List Text}
    {position : Nat}
    (apart : ∀ token ∈ tokens, Grammar.valueSeparator ∉ token)
    (counts : lexicon.Counts ⟨position, tokens⟩) :
    (lexicon.chunks ⟨position, tokens⟩).flatMap Chunk.tokens = tokens := by
  induction tokens using stream_induction lexicon generalizing position with
  | nil => rw [chunks_nil]; rfl
  | glue token name rest marked inductionHypothesis =>
      have later := (counts_glue marked position rest).1 counts
      have others := inductionHypothesis
        (fun other member => apart other (List.mem_cons_of_mem _ member)) later
      rw [chunks_of_glue marked, List.flatMap_cons, others, Text.after?_eq_some_iff.1 marked]
      rfl
  | value token rest plain inductionHypothesis =>
      obtain ⟨counted, later⟩ := (counts_value plain position rest).1 counts
      have others := inductionHypothesis
        (fun other member =>
          apart other (List.mem_cons_of_mem _ (List.mem_of_mem_drop member))) later
      have own : Text.split Grammar.valueSeparator
          (Text.join Grammar.valueSeparator
            (token :: rest.take (lexicon.span token (Cursor.ofTokens rest)))) =
          token :: rest.take (lexicon.span token (Cursor.ofTokens rest)) :=
        Text.split_join (List.cons_ne_nil _ _) fun other member =>
          apart other (List.mem_cons.2 ((List.mem_cons.1 member).imp_right List.mem_of_mem_take))
      rw [chunks_of_value plain, if_pos counted, List.flatMap_cons, others, Chunk.tokens, own,
        List.cons_append, List.take_append_drop]

end Lexicon

end AtomicCss
