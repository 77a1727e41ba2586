import AtomicCss.Cursor
import AtomicCss.Lexicon.Basic

/-!
Contract: which tokens of a stream belong to one value.

Owns:
- the number of tokens that a token takes with it;
- reading one chunk of a stream, and all chunks.

Does not own: what a chunk means as a value.
-/

namespace AtomicCss

/-- What a chunk of a stream is. -/
inductive Chunk.Kind where
  /-- The name of a character that attaches to its neighbours. -/
  | glue
  /-- The tokens of a value. -/
  | value
  /-- A template with more arguments than can be counted. -/
  | outOfRange
deriving DecidableEq, Repr

/-- A part of a stream that is one value. -/
structure Chunk where
  kind : Chunk.Kind
  text : Text
deriving DecidableEq, Repr

namespace Lexicon

/-- The number of tokens that follow a token as parts of the same value.  A
function takes all through the next `close`, a template as many as it has
arguments, a root value its value. -/
def span (lexicon : Lexicon) (token : Text) (following : Cursor) : Nat :=
  match lexicon.markers.markerAt? none token with
  | some (_, .function) | some (_, .customFunction) =>
      (following.takeThrough Grammar.close).1.1.length
  | some (marker, .template) =>
      ((lexicon.templates.get? (token.drop marker.length)).map Template.arity).getD 0
  | some (_, .rootValue) => 1
  | _ => 0

/-- Read the tokens of one value. -/
def consume? (lexicon : Lexicon) (cursor : Cursor) : Option (Chunk × Cursor) :=
  cursor.next?.map fun (token, following) =>
    let count := lexicon.span token following
    let taken := following.take count
    if following.Addressable count then
      (⟨.value, Text.join Grammar.valueSeparator (token :: taken.1)⟩, taken.2)
    else
      (⟨.outOfRange, token⟩, taken.2)

/-- Read the tokens of one value, or one character that attaches to its
neighbours. -/
def nextChunk? (lexicon : Lexicon) (cursor : Cursor) : Option (Chunk × Cursor) :=
  match cursor.peek?.bind (Text.after? Grammar.glue) with
  | some name => some (⟨.glue, name⟩, ⟨cursor.position + 1, cursor.rest.tail⟩)
  | none => lexicon.consume? cursor

/-- A value is read from the token in front and from some of those after it. -/
theorem exists_of_consume?
    {lexicon : Lexicon}
    {cursor remaining : Cursor}
    {chunk : Chunk}
    (read : lexicon.consume? cursor = some (chunk, remaining)) :
    ∃ token rest count,
      cursor.rest = token :: rest ∧ remaining.rest = rest.drop count ∧
        (chunk = ⟨.value, Text.join Grammar.valueSeparator (token :: rest.take count)⟩ ∨
          chunk = ⟨.outOfRange, token⟩) := by
  obtain ⟨position, rest⟩ := cursor
  cases rest with
  | nil => cases read
  | cons token rest =>
      simp only [consume?, Cursor.next?, Option.map_some, Option.some.injEq] at read
      refine ⟨token, rest, lexicon.span token ⟨position + 1, rest⟩, rfl, ?_⟩
      split at read
      · cases read
        exact ⟨rfl, Or.inl rfl⟩
      · cases read
        exact ⟨rfl, Or.inr rfl⟩

theorem length_rest_of_consume?
    {lexicon : Lexicon}
    {cursor remaining : Cursor}
    {chunk : Chunk}
    (read : lexicon.consume? cursor = some (chunk, remaining)) :
    remaining.rest.length < cursor.rest.length := by
  obtain ⟨token, rest, count, there, left, _⟩ := exists_of_consume? read
  rw [there, left, List.length_drop, List.length_cons]
  exact Nat.lt_succ_of_le (Nat.sub_le _ _)

theorem length_rest_of_nextChunk?
    {lexicon : Lexicon}
    {cursor remaining : Cursor}
    {chunk : Chunk}
    (read : lexicon.nextChunk? cursor = some (chunk, remaining)) :
    remaining.rest.length < cursor.rest.length := by
  unfold nextChunk? at read
  split at read
  · rename_i name glued
    simp only [Option.some.injEq, Prod.mk.injEq] at read
    rw [← read.2]
    cases rest : cursor.rest with
    | nil => simp [Cursor.peek?, rest] at glued
    | cons token others => simp
  · exact length_rest_of_consume? read

/-- The chunks of a stream. -/
def chunks (lexicon : Lexicon) (cursor : Cursor) : List Chunk :=
  match _read : lexicon.nextChunk? cursor with
  | none => []
  | some (chunk, remaining) => chunk :: chunks lexicon remaining
termination_by cursor.rest.length
decreasing_by exact length_rest_of_nextChunk? _read

/-- The chunks of the tokens of a text. -/
def chunksOf (lexicon : Lexicon) (text : Text) : List Chunk :=
  lexicon.chunks (Cursor.ofText Grammar.valueSeparator text)

/-! ## Chunks are parts of their stream -/

theorem nextChunk?_sublists
    {lexicon : Lexicon}
    {cursor remaining : Cursor}
    {chunk : Chunk}
    (read : lexicon.nextChunk? cursor = some (chunk, remaining)) :
    chunk.text.length ≤ (Text.join Grammar.valueSeparator cursor.rest).length ∧
      remaining.rest.Sublist cursor.rest := by
  have front (token : Text) (rest : List Text) :
      token.length ≤ (Text.join Grammar.valueSeparator (token :: rest)).length := by
    have bound := Text.length_join_le_of_sublist Grammar.valueSeparator
      (List.cons_sublist_cons (a := token).2 (List.nil_sublist rest))
    rwa [Text.join, List.intercalate_singleton] at bound
  unfold nextChunk? at read
  split at read
  · rename_i name glued
    obtain ⟨token, first, marked⟩ := Option.bind_eq_some_iff.1 glued
    obtain ⟨rest, there⟩ := List.head?_eq_some_iff.1 first
    cases read
    rw [there, List.tail_cons]
    refine ⟨Nat.le_trans ?_ (front token rest), List.sublist_cons_self token rest⟩
    rw [Text.length_of_after? marked]
    exact Nat.le_add_left _ _
  · obtain ⟨token, rest, count, there, left, made⟩ := exists_of_consume? read
    rw [there, left]
    refine ⟨?_, (List.drop_sublist count rest).trans (List.sublist_cons_self token rest)⟩
    rcases made with rfl | rfl
    · exact Text.length_join_le_of_sublist Grammar.valueSeparator
        ((List.take_sublist count rest).cons_cons token)
    · exact front token rest

theorem length_le_of_mem_chunks
    {lexicon : Lexicon}
    {cursor : Cursor}
    {chunk : Chunk}
    (member : chunk ∈ lexicon.chunks cursor) :
    chunk.text.length ≤ (Text.join Grammar.valueSeparator cursor.rest).length := by
  fun_induction chunks lexicon cursor with
  | case1 cursor read => simp at member
  | case2 cursor first remaining read inductionHypothesis =>
      have bounds := nextChunk?_sublists read
      rcases List.mem_cons.1 member with rfl | later
      · exact bounds.1
      · have bound := inductionHypothesis later
        have shorter := Text.length_join_le_of_sublist
          Grammar.valueSeparator bounds.2
        omega

/-- A chunk is no longer than the text that it is a part of. -/
theorem length_le_of_mem_chunksOf
    {lexicon : Lexicon}
    {text : Text}
    {chunk : Chunk}
    (member : chunk ∈ lexicon.chunksOf text) :
    chunk.text.length ≤ text.length := by
  have bound := length_le_of_mem_chunks member
  rwa [Cursor.ofText, Cursor.ofTokens, Cursor.join_tokens] at bound

end Lexicon

end AtomicCss
