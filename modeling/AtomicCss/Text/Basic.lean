/-!
Contract: texts as lists of characters, and the few ways this library cuts,
joins and compares them.

Owns:
- splitting at a character and joining with a separator, and where pieces stand in joined texts;
- taking a leading marker off a text;
- replacing every occurrence of a non-empty pattern;
- the size of a text in bytes and the cut into lines.

Does not own: character classes, numbers, or any marker of the class grammar.
-/

namespace AtomicCss

/-- A text is its characters in order.  Two texts compare by their characters,
which is also the order of their UTF-8 bytes. -/
abbrev Text := List Char

namespace Text

/-! ## Markers -/

/-- What follows `marker` at the front of a text, when the text starts with it. -/
def after? : (marker : Text) → Text → Option Text
  | [], text => some text
  | _ :: _, [] => none
  | expected :: marker, actual :: text =>
      if expected = actual then after? marker text else none

/-- A text starts with a marker when something follows the marker in it. -/
def startsWith (marker text : Text) : Bool :=
  (after? marker text).isSome

@[simp] theorem after?_nil (text : Text) : after? [] text = some text := by
  cases text <;> rfl

/-- Taking a marker off undoes putting it in front, and nothing else does. -/
theorem after?_eq_some_iff {marker text rest : Text} :
    after? marker text = some rest ↔ text = marker ++ rest := by
  induction marker generalizing text with
  | nil => simp [eq_comm]
  | cons expected marker inductionHypothesis =>
      cases text with
      | nil => simp [after?]
      | cons actual text =>
          by_cases same : expected = actual
          · simp [after?, same, inductionHypothesis]
          · simp [after?, same, Ne.symm same]

theorem after?_append (marker rest : Text) :
    after? marker (marker ++ rest) = some rest :=
  after?_eq_some_iff.2 rfl

/-- A text without its marker is shorter by exactly the marker. -/
theorem length_of_after? {marker text rest : Text}
    (found : after? marker text = some rest) :
    text.length = marker.length + rest.length := by
  rw [after?_eq_some_iff.1 found, List.length_append]

/-! ## Cutting at a character -/

/-- The pieces of a text between the occurrences of a separator.  The empty
text has one piece, which is empty. -/
def split (separator : Char) : Text → List Text
  | [] => [[]]
  | character :: rest =>
      if character = separator then
        [] :: split separator rest
      else
        match split separator rest with
        | [] => [[character]]
        | first :: others => (character :: first) :: others

/-- The pieces put together again with the separator between neighbours. -/
def join (separator : Char) (pieces : List Text) : Text :=
  List.intercalate [separator] pieces

/-- The part of a text before the first separator. -/
def before (separator : Char) (text : Text) : Text :=
  text.takeWhile (· ≠ separator)

/-- The part of a text after the first separator, if there is one. -/
def beyond? (separator : Char) (text : Text) : Option Text :=
  match text.dropWhile (· ≠ separator) with
  | [] => none
  | _ :: rest => some rest

/-- The part of a text after the first separator, empty when there is none. -/
def beyond (separator : Char) (text : Text) : Text :=
  (beyond? separator text).getD []

theorem split_ne_nil (separator : Char) (text : Text) :
    split separator text ≠ [] := by
  cases text with
  | nil => simp [split]
  | cons character rest =>
      rw [split]
      split
      · simp
      · split <;> simp

/-- Splitting loses nothing: joining the pieces gives the text back. -/
theorem join_split (separator : Char) (text : Text) :
    join separator (split separator text) = text := by
  induction text with
  | nil => simp [split, join, List.intercalate]
  | cons character rest inductionHypothesis =>
      have nonempty := split_ne_nil separator rest
      rw [split]
      cases pieces : split separator rest with
      | nil => exact absurd pieces nonempty
      | cons first others =>
          rw [pieces] at inductionHypothesis
          split
          · rename_i same
            simp [join, List.intercalate_cons_cons] at inductionHypothesis ⊢
            simp [inductionHypothesis, same]
          · cases others with
            | nil => simpa [join] using inductionHypothesis
            | cons second others =>
                simp [join, List.intercalate_cons_cons] at inductionHypothesis ⊢
                exact inductionHypothesis

theorem join_cons
    {separator : Char}
    (piece : Text)
    {others : List Text}
    (nonempty : others ≠ []) :
    join separator (piece :: others) = piece ++ separator :: join separator others := by
  obtain ⟨next, others, rfl⟩ := List.exists_cons_of_ne_nil nonempty
  simp [join, List.intercalate_cons_cons]

theorem join_append
    {separator : Char}
    {first second : List Text}
    (firstNonempty : first ≠ [])
    (secondNonempty : second ≠ []) :
    join separator (first ++ second) =
      join separator first ++ separator :: join separator second := by
  induction first with
  | nil => exact absurd rfl firstNonempty
  | cons piece others inductionHypothesis =>
      rw [List.cons_append, join_cons piece (List.append_ne_nil_of_right_ne_nil _ secondNonempty)]
      cases others with
      | nil => simp [join]
      | cons next others =>
          rw [inductionHypothesis (List.cons_ne_nil next others),
            join_cons piece (List.cons_ne_nil next others), List.append_assoc, List.cons_append]

/-- Pieces at the front of a list are joined to the front of the joined list. -/
theorem join_prefix
    (separator : Char)
    {pieces others : List Text}
    (front : pieces <+: others) :
    join separator pieces <+: join separator others := by
  obtain ⟨after, rfl⟩ := front
  by_cases empty : pieces = []
  · rw [empty]
    exact List.nil_prefix
  · by_cases whole : after = []
    · exact ⟨[], by simp [whole]⟩
    · rw [join_append empty whole]
      exact List.prefix_append _ _

/-- Pieces at the end of a list are joined to the end of the joined list. -/
theorem join_suffix
    (separator : Char)
    {pieces others : List Text}
    (last : pieces <:+ others) :
    join separator pieces <:+ join separator others := by
  obtain ⟨before, rfl⟩ := last
  by_cases empty : pieces = []
  · rw [empty]
    exact List.nil_suffix
  · by_cases whole : before = []
    · exact ⟨[], by simp [whole]⟩
    · rw [join_append whole empty]
      exact (List.suffix_cons separator _).trans (List.suffix_append _ _)

theorem infix_join_of_mem
    {separator : Char}
    {pieces : List Text}
    {piece : Text}
    (member : piece ∈ pieces) :
    piece <:+: join separator pieces := by
  obtain ⟨before, after, rfl⟩ := List.append_of_mem member
  have alone : join separator [piece] = piece := List.intercalate_singleton
  have front := join_prefix separator (List.prefix_append [piece] after)
  have last := join_suffix separator (List.suffix_append before (piece :: after))
  rw [alone] at front
  exact front.isInfix.trans last.isInfix

theorem infix_of_mem_split
    {separator : Char}
    {text piece : Text}
    (member : piece ∈ split separator text) :
    piece <:+: text := by
  have inside : piece <:+: join separator (split separator text) := infix_join_of_mem member
  rwa [join_split] at inside

/-- A piece is no longer than the text that it was cut from. -/
theorem length_le_of_mem_split
    {separator : Char}
    {text piece : Text}
    (member : piece ∈ split separator text) :
    piece.length ≤ text.length :=
  (infix_of_mem_split member).length_le

theorem length_beyond?_lt {separator : Char} {text rest : Text}
    (found : beyond? separator text = some rest) :
    rest.length < text.length := by
  unfold beyond? at found
  have bound := (@List.dropWhile_sublist _ text (· ≠ separator)).length_le
  split at found
  · simp at found
  · rename_i dropped
    cases found
    rw [dropped] at bound
    simp at bound
    omega

/-- The size of joined pieces: their own sizes and the separators between. -/
theorem length_join (separator : Char) (pieces : List Text) :
    (join separator pieces).length =
      pieces.flatten.length + (pieces.length - 1) := by
  induction pieces with
  | nil => simp [join, List.intercalate]
  | cons piece others inductionHypothesis =>
      cases others with
      | nil => simp [join, List.intercalate]
      | cons second others =>
          simp only [join] at inductionHypothesis ⊢
          rw [List.intercalate_cons_cons, List.length_append, List.length_append,
            inductionHypothesis]
          simp
          omega

/-- Leaving pieces out never makes the joined text longer. -/
theorem length_join_le_of_sublist
    (separator : Char)
    {fewer pieces : List Text}
    (sublist : fewer.Sublist pieces) :
    (join separator fewer).length ≤ (join separator pieces).length := by
  rw [length_join, length_join]
  have sizes : fewer.flatten.length ≤ pieces.flatten.length := by
    induction sublist with
    | slnil => simp
    | cons piece _ inductionHypothesis | cons_cons piece _ inductionHypothesis =>
        simp only [List.flatten_cons, List.length_append]
        omega
  have count := sublist.length_le
  omega

/-! ## Replacing -/

/-- Every occurrence of the pattern `first :: others`, found from left to right
without overlap, becomes the replacement. -/
def replace (first : Char) (others replacement : Text) : Text → Text
  | [] => []
  | character :: rest =>
      if character = first then
        match _found : after? others rest with
        | some remaining => replacement ++ replace first others replacement remaining
        | none => character :: replace first others replacement rest
      else
        character :: replace first others replacement rest
termination_by text => text.length
decreasing_by
  all_goals simp_wf
  have shorter := length_of_after? _found
  omega

/-- One character stands for another everywhere. -/
def substitute (old new : Char) (text : Text) : Text :=
  text.map fun character => if character = old then new else character

/-! ## Sizes and lines -/

/-- The number of bytes of a text in UTF-8. -/
def byteSize : Text → Nat
  | [] => 0
  | character :: rest => character.utf8Size + byteSize rest

/-- A line without the carriage return that ends it. -/
def dropReturn (line : Text) : Text :=
  if line.getLast? = some '\r' then line.dropLast else line

/-- The lines of a text.  A line feed ends a line, a carriage return just before
it belongs to the line end, and the text after the last line feed is a line only
when it is not empty. -/
def lines (text : Text) : List Text :=
  let pieces := split '\n' text
  let ended := pieces.dropLast.map dropReturn
  match pieces.getLast? with
  | none | some [] => ended
  | some last => ended ++ [last]

/-- A text within double quotes. -/
def quoted (text : Text) : Text :=
  '"' :: text ++ ['"']

/-- The decimal digits of a natural number. -/
def ofNat (number : Nat) : Text :=
  Nat.toDigits 10 number

/-- The decimal digits of an integer, after a minus sign when it is negative. -/
def ofInt : Int → Text
  | .ofNat number => ofNat number
  | .negSucc number => '-' :: ofNat (number + 1)

end Text

end AtomicCss
