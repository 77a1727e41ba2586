import AtomicCss.Proofs.OrderedMap
import AtomicCss.Proofs.Text.Splitting
import AtomicCss.Scan
import Mathlib.Data.List.TakeWhile

/-!
Contract: in a text without quotes and angle brackets, class names are found where its words
are.

Owns:
- the words of a text from its start on, and of words that are put together with a blank;
- the words that are found as class names;
- the class names in a text without quotes and angle brackets.

Does not own: what else can stand around class names in markup.

## Two ways of cutting

Words come from the last character back, names from the first one on.  What they share is the
run of characters up to the next blank: the open word of the one, and what the other has to
look at when a name can begin.  So the search is followed in two states, at a boundary and
inside a run, and the second forgets the rest of the run.
-/

namespace AtomicCss

/-- The characters that stay inside a word. -/
def isSolid (character : Char) : Bool :=
  !isBlank character

namespace Text

/-! ## Words -/

/-- From the last character back, the open word is the run up to the first blank, and the words
beyond it are those of the rest. -/
theorem foldr_wordsStep (text : Text) :
    text.foldr wordsStep ([], []) = (text.takeWhile isSolid, words (text.dropWhile isSolid)) := by
  induction text with
  | nil => rfl
  | cons character rest inductionHypothesis =>
      rw [List.foldr_cons, inductionHypothesis]
      cases blank : isBlank character with
      | false =>
          have solid : isSolid character = true := by simp [isSolid, blank]
          rw [wordsStep, if_neg (by simp [blank]), List.takeWhile_cons_of_pos solid,
            List.dropWhile_cons_of_pos solid]
      | true =>
          have broken : ¬ isSolid character = true := by simp [isSolid, blank]
          rw [List.takeWhile_cons_of_neg broken, List.dropWhile_cons_of_neg broken]
          conv_rhs => rw [words, List.foldr_cons, inductionHypothesis]
          rw [wordsStep, if_pos blank]
          cases rest.takeWhile isSolid <;> rfl

theorem words_eq (text : Text) :
    words text =
      if text.takeWhile isSolid = [] then words (text.dropWhile isSolid)
      else text.takeWhile isSolid :: words (text.dropWhile isSolid) := by
  rw [words, foldr_wordsStep]
  cases text.takeWhile isSolid <;> rfl

theorem words_cons_of_blank {character : Char} (blank : isBlank character = true) (rest : Text) :
    words (character :: rest) = words rest := by
  rw [words_eq rest, words, List.foldr_cons, foldr_wordsStep, wordsStep, if_pos blank]
  cases rest.takeWhile isSolid <;> rfl

theorem words_cons_of_solid {character : Char} (solid : isSolid character = true) (rest : Text) :
    words (character :: rest) =
      (character :: rest.takeWhile isSolid) :: words (rest.dropWhile isSolid) := by
  rw [words_eq, List.takeWhile_cons_of_pos solid, List.dropWhile_cons_of_pos solid,
    if_neg (List.cons_ne_nil _ _)]

/-- A run of solid characters is a word of its own in front of a blank. -/
theorem words_append_cons_of_blank
    {piece : Text}
    (written : piece ≠ [])
    (solid : ∀ character ∈ piece, isSolid character = true)
    {blank : Char}
    (breaks : isBlank blank = true)
    (rest : Text) :
    words (piece ++ blank :: rest) = piece :: words rest := by
  have broken : ¬ isSolid blank = true := by simp [isSolid, breaks]
  rw [words_eq, List.takeWhile_append_of_pos solid, List.dropWhile_append_of_pos solid,
    List.takeWhile_cons_of_neg broken, List.dropWhile_cons_of_neg broken, List.append_nil,
    if_neg written, words_cons_of_blank breaks]

/-- Runs of solid characters that are put together with a blank are the words again. -/
theorem words_join
    {blank : Char}
    (breaks : isBlank blank = true)
    {pieces : List Text}
    (written : ∀ piece ∈ pieces, piece ≠ [])
    (solid : ∀ piece ∈ pieces, ∀ character ∈ piece, isSolid character = true) :
    words (join blank pieces) = pieces := by
  induction pieces with
  | nil => rfl
  | cons piece others inductionHypothesis =>
      rw [List.forall_mem_cons] at written solid
      cases others with
      | nil =>
          have single : join blank [piece] = piece := by simp [join]
          have whole : piece.takeWhile isSolid = piece := List.takeWhile_eq_self_iff.2 solid.1
          have none : piece.dropWhile isSolid = [] := List.dropWhile_eq_nil_iff.2 solid.1
          rw [single, words_eq, whole, none, if_neg written.1]
          rfl
      | cons next others =>
          rw [join_cons piece (List.cons_ne_nil next others),
            words_append_cons_of_blank written.1 solid.1 breaks,
            inductionHypothesis written.2 solid.2]

end Text

namespace Scan

/-! ## Names -/

/-- The characters that end class names and are not blank. -/
def quotesAndBrackets : List Char :=
  ['"', '\'', '\x60', '<', '>']

/-- A word is found as a class name: it has the scheme and more. -/
def isName (word : Text) : Bool :=
  Text.startsWith Grammar.scheme word && word ≠ Grammar.scheme

theorem isName_scheme : isName Grammar.scheme = false := by
  decide

/-- A text that has none of the characters that quote and enclose. -/
def Plain (text : Text) : Prop :=
  ∀ character ∈ text, character ∉ quotesAndBrackets

section Plain

variable {text : Text}

theorem Plain.tail {character : Char} (plain : Plain (character :: text)) : Plain text :=
  fun other member => plain other (List.mem_cons_of_mem _ member)

theorem isBoundary_of_not_mem {character : Char} (plain : character ∉ quotesAndBrackets) :
    isBoundary character = isBlank character := by
  simp only [quotesAndBrackets, List.mem_cons, not_or] at plain
  simp [isBoundary, plain]

theorem isNameCharacter_of_not_mem {character : Char} (plain : character ∉ quotesAndBrackets) :
    isNameCharacter character = isSolid character := by
  rw [isNameCharacter, isBoundary_of_not_mem plain, isSolid]
  simp only [quotesAndBrackets, List.mem_cons, not_or] at plain
  simp [plain]

theorem takeWhile_isNameCharacter (plain : Plain text) :
    text.takeWhile isNameCharacter = text.takeWhile isSolid := by
  induction text with
  | nil => rfl
  | cons character rest inductionHypothesis =>
      rw [List.takeWhile_cons, List.takeWhile_cons, inductionHypothesis plain.tail,
        isNameCharacter_of_not_mem (plain character (List.mem_cons_self ..))]

/-- Where a name can begin, it is the run up to the next blank, if that is a name at all. -/
theorem nameAt?_of_plain (plain : Plain text) :
    nameAt? text =
      if isName (text.takeWhile isSolid) then some (text.takeWhile isSolid) else none := by
  have solid : ∀ character ∈ Grammar.scheme, isSolid character = true :=
    List.all_eq_true.1 (by decide)
  cases found : Text.after? Grammar.scheme text with
  | none =>
      have unmarked : Text.startsWith Grammar.scheme (text.takeWhile isSolid) = false := by
        rw [← Bool.not_eq_true, Text.startsWith_iff_prefix]
        intro marked
        obtain ⟨rest, same⟩ := marked.trans (List.takeWhile_prefix isSolid)
        rw [Text.after?_eq_some_iff.2 same.symm] at found
        cases found
      rw [nameAt?, found, isName, unmarked]
      rfl
  | some rest =>
      obtain rfl := Text.after?_eq_some_iff.1 found
      have run : rest.takeWhile isNameCharacter = rest.takeWhile isSolid :=
        takeWhile_isNameCharacter fun character member =>
          plain character (List.mem_append_right _ member)
      have marked : isName (Grammar.scheme ++ rest.takeWhile isSolid) =
          !decide (rest.takeWhile isSolid = []) := by
        rw [isName, Text.startsWith, Text.after?_append, Option.isSome_some, Bool.true_and,
          ← decide_not]
        exact decide_eq_decide.2 (not_congr List.append_right_eq_self)
      rw [nameAt?, found, List.takeWhile_append_of_pos solid, marked, Option.bind_some, run]
      cases rest.takeWhile isSolid <;> rfl

/-- At a boundary the search finds the names among all words; inside a run it finds those among
the words after the run. -/
theorem namesFrom_of_plain (plain : Plain text) :
    namesFrom true text = (Text.words text).filter isName ∧
      namesFrom false text = (Text.words (text.dropWhile isSolid)).filter isName := by
  induction text with
  | nil => exact ⟨rfl, rfl⟩
  | cons character rest inductionHypothesis =>
      obtain ⟨atBoundary, inside⟩ := inductionHypothesis plain.tail
      have name := nameAt?_of_plain plain
      have boundary := isBoundary_of_not_mem (plain character (List.mem_cons_self ..))
      cases blank : isBlank character with
      | true =>
          have broken : ¬ isSolid character = true := by simp [isSolid, blank]
          rw [List.takeWhile_cons_of_neg broken] at name
          simp only [namesFrom, boundary, blank, name, atBoundary,
            List.dropWhile_cons_of_neg broken, Text.words_cons_of_blank blank]
          exact ⟨rfl, rfl⟩
      | false =>
          have solid : isSolid character = true := by simp [isSolid, blank]
          rw [List.takeWhile_cons_of_pos solid] at name
          simp only [namesFrom, boundary, blank, name, inside,
            List.dropWhile_cons_of_pos solid, Text.words_cons_of_solid solid, List.filter_cons]
          refine ⟨?_, rfl⟩
          cases isName (character :: rest.takeWhile isSolid) <;> rfl

/-- The class names of a text are its words that are names, each once. -/
theorem classNames_of_plain (plain : Plain text) :
    classNames text = (OrderedSet.ofList ((Text.words text).filter isName)).members := by
  rw [classNames, (namesFrom_of_plain plain).1]

end Plain

end Scan

end AtomicCss
