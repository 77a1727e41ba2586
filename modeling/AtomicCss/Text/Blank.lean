import AtomicCss.Text.Basic

/-!
Contract: blank characters, and the operations on texts that look at them.

Owns:
- the Unicode property White_Space;
- trimming blanks from both ends of a text;
- the words of a text, its maximal runs of characters that are not blank.

Does not own: line breaks, which are cut at line feeds only.
-/

namespace AtomicCss

/-- The characters with the Unicode property White_Space, which has not changed
since Unicode 6.3. -/
def isBlank (character : Char) : Bool :=
  let code := character.toNat
  (9 ≤ code && code ≤ 13) || code = 0x20 || code = 0x85 || code = 0xA0 ||
    code = 0x1680 || (0x2000 ≤ code && code ≤ 0x200A) || code = 0x2028 ||
    code = 0x2029 || code = 0x202F || code = 0x205F || code = 0x3000

/-- The white space of ASCII is blank. -/
theorem isBlank_of_isWhitespace {character : Char}
    (white : character.isWhitespace = true) :
    isBlank character = true := by
  simp only [Char.isWhitespace, Bool.or_eq_true, decide_eq_true_eq] at white
  rcases white with ((rfl | rfl) | rfl) | rfl <;> decide

namespace Text

/-- A text without the blanks at its start. -/
def trimStart (text : Text) : Text :=
  text.dropWhile isBlank

/-- A text without the blanks at its two ends. -/
def trim (text : Text) : Text :=
  (trimStart (trimStart text).reverse).reverse

/-- Extend the words of the rest of a text by the character before it. -/
def wordsStep (character : Char) (found : Text × List Text) : Text × List Text :=
  if isBlank character then
    match found.1 with
    | [] => found
    | open_ => ([], open_ :: found.2)
  else
    (character :: found.1, found.2)

/-- The maximal runs of characters that are not blank, in order. -/
def words (text : Text) : List Text :=
  match text.foldr wordsStep ([], []) with
  | ([], others) => others
  | (first, others) => first :: others

end Text

end AtomicCss
