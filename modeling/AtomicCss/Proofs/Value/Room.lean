import AtomicCss.Proofs.OrderedMap
import AtomicCss.Proofs.Value.Induction
import AtomicCss.Proofs.Value.Range

/-!
Contract: texts that are short enough for every template of a lexicon.

Owns:
- the sizes of streams in which every template can count its arguments;
- cursors over streams of such a size, and the tokens of the values read from them;
- that no value of a short text comes to a template whose arguments cannot be counted.

Does not own: parts of class names.
-/

namespace AtomicCss

/-! ## Sizes -/

namespace Lexicon

variable {lexicon : Lexicon} {size : Nat}

/-- In streams of so many tokens every template can count its arguments. -/
structure Roomy (lexicon : Lexicon) (size : Nat) : Prop where
  value : size + 1 < wordLimit
  template : ∀ template ∈ lexicon.templates.values, size + template.arity < wordLimit

theorem Roomy.arity
    (roomy : lexicon.Roomy size)
    (name : Text) :
    size + ((lexicon.templates.get? name).map Template.arity).getD 0 < wordLimit := by
  cases found : lexicon.templates.get? name with
  | none =>
      have bound := roomy.value
      simp only [Option.map_none, Option.getD_none]
      omega
  | some template =>
      have entry := OrderedMap.get?_eq_some_iff.1 found
      exact roomy.template template (List.mem_map_of_mem entry)

theorem Roomy.addressable
    (roomy : lexicon.Roomy size)
    (token : Text)
    {following : Cursor}
    (fits : following.size ≤ size) :
    following.Addressable (lexicon.span token following) := by
  have inside : following.position ≤ following.size := Nat.le_add_right _ _
  have throughClose :
      (following.takeThrough Grammar.close).1.1.length ≤ following.remaining := by
    rw [Cursor.length_takeThrough]
    cases found : following.rest.findIdx? (· = Grammar.close) with
    | none => exact Nat.le_refl _
    | some offset => exact (List.findIdx?_eq_some_iff_getElem.1 found).1
  unfold span
  split
  · exact Or.inl throughClose
  · exact Or.inl throughClose
  · rename_i marker _
    have bound := roomy.arity (token.drop marker.length)
    exact Or.inr (by omega)
  · have bound := roomy.value
    exact Or.inr (by omega)
  · exact Or.inl (Nat.zero_le _)

end Lexicon

/-! ## Cursors -/

theorem Text.length_beyond_le (text : Text) :
    (Text.beyond Grammar.valueSeparator text).length ≤ text.length := by
  unfold Text.beyond
  cases found : Text.beyond? Grammar.valueSeparator text with
  | none => exact Nat.zero_le _
  | some rest => exact Nat.le_of_lt (Text.length_beyond?_lt found)

/-- A cursor over so many tokens at most, with fewer characters left to read. -/
structure Cursor.Fits (size : Nat) (cursor : Cursor) : Prop where
  tokens : cursor.size ≤ size
  text : (Text.join Grammar.valueSeparator cursor.rest).length < size

namespace Cursor

variable {size : Nat}

theorem Fits.ofText
    {text : Text}
    (short : text.length < size) :
    Fits size (Cursor.ofText Grammar.valueSeparator text) := by
  have joined :=
    Text.length_join Grammar.valueSeparator (Cursor.tokens Grammar.valueSeparator text)
  rw [join_tokens] at joined
  unfold Cursor.ofText Cursor.ofTokens
  refine ⟨?_, by rwa [join_tokens]⟩
  simp only [Cursor.size]
  omega

/-- The cursor still fits when tokens are read or skipped. -/
theorem Fits.forward
    {first second : Cursor}
    (fits : Fits size first)
    (same : second.size = first.size)
    (sublist : second.rest.Sublist first.rest) :
    Fits size second where
  tokens := same ▸ fits.tokens
  text :=
    Nat.lt_of_le_of_lt (Text.length_join_le_of_sublist Grammar.valueSeparator sublist) fits.text

theorem Fits.take
    {cursor : Cursor}
    (fits : Fits size cursor)
    (count : Nat) :
    Fits size (cursor.take count).2 :=
  fits.forward (cursor.size_take count) (List.drop_sublist count cursor.rest)

theorem Fits.next
    {position : Nat}
    {token : Text}
    {rest : List Text}
    (fits : Fits size ⟨position, token :: rest⟩) :
    Fits size ⟨position + 1, rest⟩ := by
  apply fits.forward
  · simp only [Cursor.size, List.length_cons]
    omega
  · exact List.sublist_cons_self token rest

end Cursor

/-! ## Chunks -/

/-- A chunk that can be counted, of fewer characters than `size`. -/
structure Chunk.Short (size : Nat) (chunk : Chunk) : Prop where
  counted : chunk.kind ≠ .outOfRange
  text : chunk.text.length < size

namespace Lexicon

variable {lexicon : Lexicon} {size : Nat} {cursor remaining : Cursor} {chunk : Chunk}

theorem Roomy.consume?
    (roomy : lexicon.Roomy size)
    (fits : cursor.Fits size)
    (read : lexicon.consume? cursor = some (chunk, remaining)) :
    chunk.Short size ∧ remaining.Fits size := by
  obtain ⟨position, rest⟩ := cursor
  cases rest with
  | nil => simp [Lexicon.consume?, Cursor.next?] at read
  | cons token rest =>
      have room := roomy.addressable token fits.next.tokens
      simp only [Lexicon.consume?, Cursor.next?, Option.map_some, Option.some.injEq, if_pos room,
        Prod.mk.injEq] at read
      obtain ⟨rfl, rfl⟩ := read
      have sublist :
          (token :: (Cursor.take ⟨position + 1, rest⟩
            (lexicon.span token ⟨position + 1, rest⟩)).1).Sublist (token :: rest) :=
        (List.take_sublist _ rest).cons_cons token
      have bound := Text.length_join_le_of_sublist Grammar.valueSeparator sublist
      exact ⟨⟨by simp, Nat.lt_of_le_of_lt bound fits.text⟩, fits.next.take _⟩

theorem Roomy.nextChunk?
    (roomy : lexicon.Roomy size)
    (fits : cursor.Fits size)
    (read : lexicon.nextChunk? cursor = some (chunk, remaining)) :
    chunk.Short size ∧ remaining.Fits size := by
  have bound := (nextChunk?_sublists read).1
  unfold Lexicon.nextChunk? at read
  split at read
  · rename_i name marked
    obtain ⟨position, rest⟩ := cursor
    cases rest with
    | nil => simp [Cursor.peek?] at marked
    | cons token rest =>
        simp only [Option.some.injEq, Prod.mk.injEq] at read
        obtain ⟨rfl, rfl⟩ := read
        exact ⟨⟨by simp, Nat.lt_of_le_of_lt bound fits.text⟩, fits.next⟩
  · exact roomy.consume? fits read

theorem Roomy.chunks
    (roomy : lexicon.Roomy size)
    (fits : cursor.Fits size) :
    ∀ chunk ∈ lexicon.chunks cursor, chunk.Short size := by
  intro chunk member
  fun_induction Lexicon.chunks lexicon cursor with
  | case1 cursor read => simp at member
  | case2 cursor first remaining read inductionHypothesis =>
      obtain ⟨short, others⟩ := roomy.nextChunk? fits read
      rcases List.mem_cons.1 member with rfl | later
      · exact short
      · exact inductionHypothesis others later

/-! ## Values -/

/-- Values come to no such template when none of them does. -/
theorem anyOverreaches_of_forall
    {values : List Value}
    (none : ∀ value ∈ values, ∀ levels, value.overreaches levels = false)
    (levels : Nat) :
    Value.anyOverreaches values levels = false := by
  rw [Value.anyOverreaches_eq, List.any_eq_false]
  intro value member
  simp [none value member levels]

/-- That it comes to no such template passes from the values in a value to the value. -/
theorem Roomy.hereditary (roomy : lexicon.Roomy size) :
    lexicon.Hereditary size fun value => ∀ levels, value.overreaches levels = false where
  text := fun _ _ => rfl
  glue := fun _ _ => rfl
  target := fun _ _ _ => rfl
  quoted := by
    intro source inner none levels
    rw [Value.overreaches, none, Bool.and_false]
  commaList := by
    intro items none levels
    rw [Value.overreaches, anyOverreaches_of_forall none]
  rootValue := by
    intro name stream none levels
    rw [Value.overreaches, anyOverreaches_of_forall none]
  template := by
    intro source blueprint arguments none levels
    rw [Value.overreaches, anyOverreaches_of_forall none, Bool.and_false]
  call := by
    intro source name arguments trailing none following levels
    rw [Value.overreaches, anyOverreaches_of_forall none, anyOverreaches_of_forall following,
      Bool.or_false, Bool.and_false]
  computed := by
    intro bound source function arguments trailing none following levels
    rw [Value.overreaches, anyOverreaches_of_forall none, anyOverreaches_of_forall following,
      Bool.or_false, Bool.and_false]
  outOfRange := by
    intro stream short chunk member uncounted
    exact absurd uncounted (roomy.chunks (Cursor.Fits.ofText short) chunk member).counted

theorem Roomy.read
    (roomy : lexicon.Roomy size)
    (quoted : Bool)
    (token : Text)
    (short : token.length < size)
    (levels : Nat) :
    (lexicon.read quoted token).overreaches levels = false :=
  roomy.hereditary.read quoted short levels

theorem Roomy.readChunk
    (roomy : lexicon.Roomy size)
    (short : chunk.Short size)
    (levels : Nat) :
    (lexicon.readChunk chunk).overreaches levels = false := by
  unfold Lexicon.readChunk
  split
  · rfl
  · exact absurd ‹_› short.counted
  · exact roomy.read false chunk.text short.text levels

theorem Roomy.readStream
    (roomy : lexicon.Roomy size)
    (fits : cursor.Fits size)
    (levels : Nat) :
    Value.anyOverreaches (lexicon.readStream cursor) levels = false := by
  refine anyOverreaches_of_forall (List.forall_mem_map.2 fun chunk member => ?_) levels
  exact roomy.readChunk (roomy.chunks fits chunk member)

end Lexicon

end AtomicCss
