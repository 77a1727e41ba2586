import AtomicCss.Cursor
import AtomicCss.Grammar

/-!
Contract: the pieces of texts that are put together with a separator.

Owns:
- the pieces of two texts and of a list of texts joined by the separator;
- the characters of joined texts;
- what stands before and beyond the first separator;
- the pieces of a text that ends with separators;
- when the lines of a text are its pieces between line feeds.

Does not own: two dashes in a row, which separate the parts of a class name.
-/

namespace AtomicCss

namespace Text

variable {separator : Char}

/-- A text with a separator in it has the pieces before it and those after it. -/
theorem split_append_cons (first second : Text) :
    split separator (first ++ separator :: second) =
      split separator first ++ split separator second := by
  induction first with
  | nil => simp [split]
  | cons character rest inductionHypothesis =>
      rw [List.cons_append, split, split, inductionHypothesis]
      split
      · rfl
      · cases pieces : split separator rest with
        | nil => exact absurd pieces (split_ne_nil separator rest)
        | cons piece others => rfl

theorem split_of_not_mem {text : Text} (absent : separator ∉ text) :
    split separator text = [text] := by
  induction text with
  | nil => rfl
  | cons character rest inductionHypothesis =>
      rw [List.mem_cons, not_or] at absent
      rw [split, if_neg (Ne.symm absent.1), inductionHypothesis absent.2]

theorem not_mem_of_mem_split {text piece : Text} (member : piece ∈ split separator text) :
    separator ∉ piece := by
  induction text generalizing piece with
  | nil =>
      rw [split, List.mem_singleton] at member
      simp [member]
  | cons character rest inductionHypothesis =>
      rw [split] at member
      split at member
      · rcases List.mem_cons.1 member with rfl | later
        · simp
        · exact inductionHypothesis later
      · rename_i other
        cases pieces : split separator rest with
        | nil => exact absurd pieces (split_ne_nil separator rest)
        | cons first others =>
            rw [pieces] at member inductionHypothesis
            rcases List.mem_cons.1 member with rfl | later
            · have absent := inductionHypothesis List.mem_cons_self
              simp [absent, Ne.symm other]
            · exact inductionHypothesis (List.mem_cons_of_mem _ later)

/-- Texts without the separator are the pieces of the text that they are joined to. -/
theorem split_join
    {pieces : List Text}
    (nonempty : pieces ≠ [])
    (absent : ∀ piece ∈ pieces, separator ∉ piece) :
    split separator (join separator pieces) = pieces := by
  induction pieces with
  | nil => exact absurd rfl nonempty
  | cons piece others inductionHypothesis =>
      have alone := split_of_not_mem (absent piece List.mem_cons_self)
      cases others with
      | nil => simpa [join] using alone
      | cons second others =>
          rw [join_cons piece (List.cons_ne_nil second others), split_append_cons, alone,
            inductionHypothesis (List.cons_ne_nil second others)
              fun other member => absent other (List.mem_cons_of_mem _ member)]
          rfl

/-- A character that is not between the pieces is in the joined text when it is in one of them. -/
theorem mem_intercalate_iff
    {between : Text}
    {character : Char}
    (other : character ∉ between)
    (pieces : List Text) :
    character ∈ List.intercalate between pieces ↔ ∃ piece ∈ pieces, character ∈ piece := by
  induction pieces with
  | nil => simp
  | cons piece others inductionHypothesis =>
      cases others with
      | nil => simp
      | cons next more =>
          rw [List.intercalate_cons_cons, List.mem_append, List.mem_append, or_iff_left other,
            inductionHypothesis]
          simp only [List.mem_cons, exists_eq_or_imp]

theorem mem_join_iff
    {character : Char}
    (other : character ≠ separator)
    (pieces : List Text) :
    character ∈ join separator pieces ↔ ∃ piece ∈ pieces, character ∈ piece :=
  mem_intercalate_iff (by simpa using other) pieces

theorem startsWith_iff_prefix {marker text : Text} :
    startsWith marker text = true ↔ marker <+: text := by
  rw [startsWith, Option.isSome_iff_exists]
  simp only [after?_eq_some_iff]
  exact ⟨fun ⟨rest, same⟩ => ⟨rest, same.symm⟩, fun ⟨rest, same⟩ => ⟨rest, same.symm⟩⟩

/-- A text without the separator starts a text with one exactly when it starts what stands
before the separator. -/
theorem prefix_append_cons_iff
    {marker : Text}
    (absent : separator ∉ marker)
    (first second : Text) :
    marker <+: first ++ separator :: second ↔ marker <+: first := by
  constructor
  · rintro ⟨rest, same⟩
    rcases List.append_eq_append_iff.1 same with ⟨more, whole, _⟩ | ⟨more, whole, further⟩
    · exact ⟨more, whole.symm⟩
    · cases more with
      | nil => exact ⟨[], by rw [whole, List.append_nil, List.append_nil]⟩
      | cons next more =>
          rw [List.cons_append, List.cons.injEq] at further
          rw [whole, further.1] at absent
          simp at absent
  · exact fun front => front.trans (List.prefix_append _ _)

/-! ## The first separator -/

theorem forall_ne_of_not_mem {text : Text} (absent : separator ∉ text) :
    ∀ character ∈ text, decide (character ≠ separator) = true := by
  intro character member
  have other : character ≠ separator := fun same => absent (same ▸ member)
  simpa using other

theorem before_append_cons {first : Text} (absent : separator ∉ first) (second : Text) :
    before separator (first ++ separator :: second) = first := by
  rw [before, List.takeWhile_append_of_pos (forall_ne_of_not_mem absent)]
  simp

theorem beyond?_append_cons {first : Text} (absent : separator ∉ first) (second : Text) :
    beyond? separator (first ++ separator :: second) = some second := by
  rw [beyond?, List.dropWhile_append_of_pos (forall_ne_of_not_mem absent)]
  simp

theorem before_of_not_mem {text : Text} (absent : separator ∉ text) :
    before separator text = text := by
  have whole : (text ++ []).takeWhile (· ≠ separator) =
      text ++ List.takeWhile (· ≠ separator) [] :=
    List.takeWhile_append_of_pos (forall_ne_of_not_mem absent)
  simpa [before] using whole

theorem beyond?_of_not_mem {text : Text} (absent : separator ∉ text) :
    beyond? separator text = none := by
  have whole : (text ++ []).dropWhile (· ≠ separator) = List.dropWhile (· ≠ separator) [] :=
    List.dropWhile_append_of_pos (forall_ne_of_not_mem absent)
  rw [List.append_nil, List.dropWhile_nil] at whole
  rw [beyond?, whole]

theorem beyond_append {first : Text} (absent : separator ∉ first) (second : Text) :
    beyond separator (first ++ second) = beyond separator second := by
  rw [beyond, beyond, beyond?, beyond?, List.dropWhile_append_of_pos (forall_ne_of_not_mem absent)]

theorem suffix_of_beyond? {text rest : Text} (found : beyond? separator text = some rest) :
    rest <:+ text := by
  have last : text.dropWhile (· ≠ separator) <:+ text := List.dropWhile_suffix _
  unfold beyond? at found
  split at found
  · cases found
  · rename_i dropped
    cases found
    rw [dropped] at last
    exact (List.suffix_cons _ _).trans last

theorem beyond_suffix (text : Text) : beyond separator text <:+ text := by
  unfold beyond
  cases found : beyond? separator text with
  | none => exact List.nil_suffix
  | some rest => exact suffix_of_beyond? found

/-! ## Separators at the end -/

theorem split_replicate (count : Nat) :
    split separator (List.replicate count separator) = List.replicate (count + 1) [] := by
  induction count with
  | zero => rfl
  | succ count inductionHypothesis =>
      rw [List.replicate_succ, split, if_pos rfl, inductionHypothesis, ← List.replicate_succ]

/-- Every separator at the end of a text is followed by an empty piece. -/
theorem split_append_replicate {text : Text} (absent : separator ∉ text) (count : Nat) :
    split separator (text ++ List.replicate count separator) =
      text :: List.replicate count [] := by
  cases count with
  | zero => simpa using split_of_not_mem absent
  | succ count =>
      rw [List.replicate_succ, split_append_cons, split_of_not_mem absent, split_replicate]
      rfl

theorem before_append_replicate {text : Text} (absent : separator ∉ text) (count : Nat) :
    before separator (text ++ List.replicate count separator) = text := by
  cases count with
  | zero => rw [List.replicate_zero, List.append_nil, before_of_not_mem absent]
  | succ count => exact before_append_cons absent (List.replicate count separator)

theorem beyond_append_replicate {text : Text} (absent : separator ∉ text) (count : Nat) :
    beyond separator (text ++ List.replicate count separator) =
      List.replicate (count - 1) separator := by
  cases count with
  | zero =>
      rw [List.replicate_zero, List.append_nil, beyond, beyond?_of_not_mem absent]
      rfl
  | succ count =>
      rw [List.replicate_succ, beyond, beyond?_append_cons absent]
      rfl

/-- Empty pieces are joined to the separators between them. -/
theorem join_replicate (count : Nat) :
    join separator (List.replicate count []) = List.replicate (count - 1) separator := by
  induction count with
  | zero => rfl
  | succ count inductionHypothesis =>
      cases count with
      | zero => rfl
      | succ count =>
          rw [List.replicate_succ, join_cons [] (by simp), inductionHypothesis,
            Nat.add_sub_cancel, Nat.add_sub_cancel]
          rfl

/-! ## Lines -/

/-- Without carriage returns the lines of a text that does not end with a line feed are its
pieces. -/
theorem lines_eq_split
    {front : Text}
    {last : Char}
    (noReturn : '\r' ∉ front ++ [last])
    (ends : last ≠ '\n') :
    lines (front ++ [last]) = split '\n' (front ++ [last]) := by
  obtain ⟨earlier, final, cut⟩ :
      ∃ earlier final, split '\n' (front ++ [last]) = earlier ++ [final] :=
    ⟨_, _, (List.dropLast_concat_getLast (split_ne_nil '\n' _)).symm⟩
  have whole : join '\n' (earlier ++ [final]) = front ++ [last] := by
    rw [← cut, join_split]
  have written : final ≠ [] := by
    rintro rfl
    by_cases alone : earlier = []
    · subst alone
      simp [join] at whole
    · rw [join_append alone (List.cons_ne_nil _ _)] at whole
      have same := congrArg List.getLast? whole
      simp only [join, List.intercalate_singleton, List.getLast?_concat, Option.some.injEq] at same
      exact ends same.symm
  have kept : earlier.map dropReturn = earlier := by
    have each : ∀ line ∈ earlier, dropReturn line = id line := by
      intro line member
      refine if_neg fun returned => noReturn ?_
      have piece : line ∈ split '\n' (front ++ [last]) := by
        rw [cut]
        exact List.mem_append_left _ member
      exact (infix_of_mem_split piece).subset (List.mem_of_getLast? returned)
    rw [List.map_congr_left each, List.map_id]
  obtain ⟨first, others, rfl⟩ := List.exists_cons_of_ne_nil written
  simp only [lines, cut, List.getLast?_concat, List.dropLast_concat, kept]

end Text

namespace Cursor

/-- The tokens of two texts with a separator between them are those of the one and then those
of the other. -/
theorem tokens_append_cons
    {separator : Char}
    {first second : Text}
    (firstWritten : first ≠ [])
    (secondWritten : second ≠ []) :
    tokens separator (first ++ separator :: second) =
      tokens separator first ++ tokens separator second := by
  rw [tokens, tokens, tokens, if_neg (by simp), if_neg firstWritten, if_neg secondWritten,
    Text.split_append_cons]

theorem tokens_ne_nil {separator : Char} {text : Text} (written : text ≠ []) :
    tokens separator text ≠ [] := by
  rw [tokens, if_neg written]
  exact Text.split_ne_nil separator text

/-- Tokens without the separator are read back from the text that they are joined to, unless
that is one empty token. -/
theorem tokens_join
    {separator : Char}
    {pieces : List Text}
    (written : pieces ≠ [[]])
    (absent : ∀ piece ∈ pieces, separator ∉ piece) :
    tokens separator (Text.join separator pieces) = pieces := by
  by_cases empty : pieces = []
  · subst empty
    rfl
  · have split := Text.split_join empty absent
    have nonempty : Text.join separator pieces ≠ [] := by
      intro same
      rw [same] at split
      exact written split.symm
    rw [tokens, if_neg nonempty, split]

theorem tokens_append_replicate
    {separator : Char}
    {first : Text}
    {count : Nat}
    (written : first ++ List.replicate count separator ≠ [])
    (absent : separator ∉ first) :
    tokens separator (first ++ List.replicate count separator) =
      first :: List.replicate count [] := by
  rw [tokens, if_neg written, Text.split_append_replicate absent]

theorem not_mem_of_mem_tokens
    {separator : Char}
    {text token : Text}
    (member : token ∈ tokens separator text) :
    separator ∉ token := by
  unfold tokens at member
  split at member
  · cases member
  · exact Text.not_mem_of_mem_split member

end Cursor

end AtomicCss
