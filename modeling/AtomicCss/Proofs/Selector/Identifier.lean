import AtomicCss.Grammar
import AtomicCss.Selector.Escaping

/-!
Contract: what a reader of style sheets takes the selector of a class name for.

Owns:
- the identifiers of CSS: what begins one, what it goes on with, escapes of code points and of
  single characters, and the characters that are replaced before reading;
- the reading of an escaped class name, one character after the other;
- the main statement about the selectors of class names.

Does not own: the names in target instructions, which stand in selectors as they are.

## Which names are read back

An escape of a hexadecimal digit would be read as a code point, but no such digit is escaped.  A
backslash before a line end is no escape, so the identifier ends there.  The reader sees other line
ends and NUL only after they were replaced, so it cannot give them back.
-/

namespace AtomicCss.Selector

/-! ## Identifiers -/

/-- What stands for characters that a style sheet cannot have. -/
def replacement : Char :=
  '\uFFFD'

/-- What a character is replaced by before reading: line ends of other kinds by a line feed, and
NUL. -/
def cleaned (character : Char) : Char :=
  if character = '\r' ∨ character = '\x0c' then '\n'
  else if character = '\x00' then replacement
  else character

/-- A style sheet as its reader sees it.  A carriage return and a line feed are one line end. -/
def clean : Text → Text
  | [] => []
  | '\r' :: '\n' :: rest => '\n' :: clean rest
  | character :: rest => cleaned character :: clean rest

/-- The characters that a name begins with: letters, the underscore and all outside ASCII. -/
def beginsName (character : Char) : Bool :=
  character.isAlpha || character = '_' || 128 ≤ character.toNat

/-- The characters that a name goes on with: these, digits and the dash. -/
def continuesName (character : Char) : Bool :=
  beginsName character || character.isDigit || character = '-'

def isHexDigit (character : Char) : Bool :=
  character.isDigit || ('a' ≤ character && character ≤ 'f') ||
    ('A' ≤ character && character ≤ 'F')

def hexValue (digit : Char) : Nat :=
  if digit.isDigit then digit.toNat - '0'.toNat
  else digit.toLower.toNat - 'a'.toNat + 10

/-- The character whose code point hexadecimal digits write. -/
def ofHexDigits (digits : Text) : Char :=
  let codePoint := digits.foldl (fun value digit => value * 16 + hexValue digit) 0
  if codePoint ≠ 0 ∧ codePoint.isValidChar then Char.ofNat codePoint else replacement

/-- What follows a backslash makes an escape, unless the line ends there. -/
def makesEscape (text : Text) : Bool :=
  text.head? ≠ some '\n'

/-- The character that an escape stands for, read after its backslash, and what follows it.  Up to
six hexadecimal digits are a code point, which one blank may end.  Any other character stands for
itself. -/
def readEscape : Text → Char × Text
  | [] => (replacement, [])
  | first :: rest =>
      if isHexDigit first then
        let others := (rest.take 5).takeWhile isHexDigit
        let after := rest.drop others.length
        (ofHexDigits (first :: others),
          if after.head?.any (· ∈ ['\n', '\t', ' ']) then after.tail else after)
      else
        (first, rest)

theorem length_readEscape_le (text : Text) : (readEscape text).2.length ≤ text.length := by
  cases text with
  | nil => exact Nat.le_refl 0
  | cons first rest =>
      rw [readEscape]
      split
      · simp only
        split <;> simp <;> omega
      · exact Nat.le_succ _

/-- The name at the front of a text with its escapes replaced, and what follows it. -/
def readName : Text → Text × Text
  | [] => ([], [])
  | character :: rest =>
      if character = '\\' ∧ makesEscape rest then
        let escape := readEscape rest
        let further := readName escape.2
        (escape.1 :: further.1, further.2)
      else if continuesName character then
        let further := readName rest
        (character :: further.1, further.2)
      else
        ([], character :: rest)
termination_by text => text.length
decreasing_by
  · exact Nat.lt_succ_of_le (length_readEscape_le rest)
  · exact Nat.lt_succ_self rest.length

/-- An identifier begins at the front of a text.  After a dash it takes another dash, a character
that a name begins with, or an escape. -/
def beginsIdentifier : Text → Bool
  | [] => false
  | '\\' :: rest => makesEscape rest
  | '-' :: '\\' :: rest => makesEscape rest
  | '-' :: rest => rest.head?.any fun character => character = '-' || beginsName character
  | character :: _ => beginsName character

/-- The value of the identifier at the front of a text, and what follows it. -/
def readIdentifier? (text : Text) : Option (Text × Text) :=
  if beginsIdentifier text then some (readName text) else none

/-! ## Characters -/

/-- The characters that escaping leaves as they are are those that a name goes on with. -/
theorem isPlain_eq_continuesName (character : Char) :
    isPlain character = continuesName character := by
  simp only [isPlain, continuesName, beginsName, Char.isAlphanum]
  grind

/-- No escape of a single character is taken for a code point. -/
theorem isPlain_of_isHexDigit {character : Char} (hex : isHexDigit character = true) :
    isPlain character = true := by
  have alphanumeric : character.isAlphanum = true := by
    simp only [isHexDigit, Bool.or_eq_true, Bool.and_eq_true, decide_eq_true_eq,
      Char.le_def] at hex
    rcases hex with (digit | lower) | upper
    · exact Bool.or_eq_true_iff.2 (Or.inr digit)
    · have letter : character.isLower = true := Bool.and_eq_true_iff.2
        ⟨decide_eq_true lower.1, decide_eq_true (UInt32.le_trans lower.2 (by decide))⟩
      exact Bool.or_eq_true_iff.2 (Or.inl (Bool.or_eq_true_iff.2 (Or.inr letter)))
    · have letter : character.isUpper = true :=
        decide_eq_true ⟨upper.1, UInt32.le_trans upper.2 (by decide)⟩
      exact Bool.or_eq_true_iff.2 (Or.inl (Bool.or_eq_true_iff.2 (Or.inl letter)))
  simp [isPlain, alphanumeric]

theorem ne_of_isPlain
    {character special : Char}
    (plain : isPlain character = true)
    (escaped : isPlain special = false) :
    character ≠ special := by
  rintro rfl
  rw [plain] at escaped
  cases escaped

theorem cleaned_of_isPlain {character : Char} (plain : isPlain character = true) :
    cleaned character = character := by
  have noReturn : character ≠ '\r' := ne_of_isPlain plain (by decide)
  have noFeed : character ≠ '\x0c' := ne_of_isPlain plain (by decide)
  have noNul : character ≠ '\x00' := ne_of_isPlain plain (by decide)
  rw [cleaned, if_neg (not_or.2 ⟨noReturn, noFeed⟩), if_neg noNul]

theorem isHexDigit_cleaned {character : Char} (special : isPlain character = false) :
    isHexDigit (cleaned character) = false := by
  unfold cleaned
  split
  · decide
  · split
    · decide
    · rw [Bool.eq_false_iff]
      intro hex
      rw [isPlain_of_isHexDigit hex] at special
      cases special

/-- The characters that a class name cannot have if its selector is to be read back. -/
def unreadable : List Char :=
  ['\n', '\r', '\x0c', '\x00']

theorem not_mem_unreadable_iff {character : Char} :
    character ∉ unreadable ↔ cleaned character ≠ '\n' ∧ cleaned character = character := by
  constructor
  · intro readable
    simp only [unreadable, List.mem_cons, List.not_mem_nil, or_false, not_or] at readable
    obtain ⟨noLine, noReturn, noFeed, noNul⟩ := readable
    have same : cleaned character = character := by
      rw [cleaned, if_neg (not_or.2 ⟨noReturn, noFeed⟩), if_neg noNul]
    rw [same]
    exact ⟨noLine, rfl⟩
  · rintro ⟨noLine, same⟩ member
    simp only [unreadable, List.mem_cons, List.not_mem_nil, or_false] at member
    rcases member with rfl | rfl | rfl | rfl
    · exact noLine rfl
    · exact noLine rfl
    · exact noLine rfl
    · exact absurd same (by decide)

/-! ## Escaped class names -/

theorem head?_escape_ne (name : Text) : (escape name).head? ≠ some '\n' := by
  cases name with
  | nil => simp
  | cons character rest =>
      have split : escape (character :: rest) =
          (if isPlain character then [character] else ['\\', character]) ++ escape rest := rfl
      rw [split]
      cases plain : isPlain character with
      | false => simp
      | true => simpa using ne_of_isPlain plain (by decide)

theorem clean_cons_of_ne {rest : Text} (next : rest.head? ≠ some '\n') (character : Char) :
    clean (character :: rest) = cleaned character :: clean rest := by
  rw [clean]
  rintro others - rfl
  exact next rfl

/-- Cleaning an escaped name cleans its characters. -/
theorem clean_escape_cons (character : Char) (rest : Text) :
    clean (escape (character :: rest)) =
      (if isPlain character then [character] else ['\\', cleaned character]) ++
        clean (escape rest) := by
  have split : escape (character :: rest) =
      (if isPlain character then [character] else ['\\', character]) ++ escape rest := rfl
  have last := clean_cons_of_ne (head?_escape_ne rest) character
  rw [split]
  cases plain : isPlain character with
  | true =>
      rw [if_pos rfl, if_pos rfl, List.singleton_append, List.singleton_append, last,
        cleaned_of_isPlain plain]
  | false =>
      rw [if_neg Bool.false_ne_true, if_neg Bool.false_ne_true]
      show clean ('\\' :: character :: escape rest) = _
      rw [clean, last]
      · rfl
      · rintro others ⟨⟩

theorem clean_escape
    {name : Text}
    (readable : ∀ character ∈ name, character ∉ unreadable) :
    clean (escape name) = escape name := by
  induction name with
  | nil => rfl
  | cons character rest inductionHypothesis =>
      rw [List.forall_mem_cons] at readable
      rw [clean_escape_cons, (not_mem_unreadable_iff.1 readable.1).2,
        inductionHypothesis readable.2]
      rfl

/-- A reader gets one character from each that was escaped, up to the first line end. -/
theorem readName_clean_escape_cons (character : Char) (rest : Text) :
    readName (clean (escape (character :: rest))) =
      if cleaned character = '\n' then ([], clean (escape (character :: rest)))
      else
        (cleaned character :: (readName (clean (escape rest))).1,
          (readName (clean (escape rest))).2) := by
  rw [clean_escape_cons]
  cases plain : isPlain character with
  | true =>
      have noLine : cleaned character ≠ '\n' := by
        rw [cleaned_of_isPlain plain]
        exact ne_of_isPlain plain (by decide)
      have noBackslash : character ≠ '\\' := ne_of_isPlain plain (by decide)
      rw [if_pos rfl, if_neg noLine, List.singleton_append, readName,
        if_neg fun escapes => noBackslash escapes.1,
        if_pos (isPlain_eq_continuesName character ▸ plain), cleaned_of_isPlain plain]
  | false =>
      rw [if_neg Bool.false_ne_true]
      show readName ('\\' :: cleaned character :: clean (escape rest)) = _
      rw [readName]
      by_cases line : cleaned character = '\n'
      · have ends : ¬ (('\\' : Char) = '\\' ∧
            makesEscape (cleaned character :: clean (escape rest)) = true) := by
          simp [makesEscape, line]
        rw [if_neg ends, if_neg (by decide), if_pos line]
        rfl
      · have escapes : ('\\' : Char) = '\\' ∧
            makesEscape (cleaned character :: clean (escape rest)) = true := by
          simp [makesEscape, line]
        have single : readEscape (cleaned character :: clean (escape rest)) =
            (cleaned character, clean (escape rest)) := by
          rw [readEscape, if_neg (by simp [isHexDigit_cleaned plain])]
        rw [if_pos escapes, if_neg line, single]

/-- A name is read back from its escaped form exactly when a reader can see all of its
characters. -/
theorem readName_clean_escape_iff (name : Text) :
    readName (clean (escape name)) = (name, []) ↔
      ∀ character ∈ name, character ∉ unreadable := by
  induction name with
  | nil => simp [clean, readName]
  | cons character rest inductionHypothesis =>
      rw [readName_clean_escape_cons, List.forall_mem_cons, ← inductionHypothesis,
        not_mem_unreadable_iff]
      by_cases line : cleaned character = '\n'
      · simp [line]
      · simp [line, Prod.ext_iff, and_assoc]

/-! ## Selectors of class names -/

/-- The selector of a class name is a dot and one identifier.  A reader of style sheets takes the
text as it is, reads the identifier to its end, and has the class name for its value. -/
theorem identifier_denotes_class
    {className : Text}
    (scheme : Text.startsWith Grammar.scheme className = true)
    (readable : ∀ character ∈ className, character ∉ unreadable) :
    ∃ text, ofClass className = '.' :: text ∧ clean text = text ∧
      readIdentifier? text = some (className, []) := by
  have cleanText := clean_escape readable
  have name := (readName_clean_escape_iff className).2 readable
  rw [cleanText] at name
  obtain ⟨rest, after⟩ := Option.isSome_iff_exists.1 scheme
  obtain rfl := Text.after?_eq_some_iff.1 after
  have begins : beginsIdentifier (escape (Grammar.scheme ++ rest)) = true := by
    rw [escape_append]
    rfl
  refine ⟨escape (Grammar.scheme ++ rest), rfl, cleanText, ?_⟩
  rw [readIdentifier?, if_pos begins, name]

/-- A class name with characters that are escaped, digits behind two of them, and one outside
ASCII. -/
theorem identifier_denotes_class_fraction :
    let className := "cssf--w_1/2--c_#0af\\é".toList
    Text.startsWith Grammar.scheme className = true ∧
    (∀ character ∈ className, character ∉ unreadable) ∧
    ofClass className = ".cssf--w_1\\/2--c_\\#0af\\\\é".toList ∧
    readIdentifier? "cssf--w_1\\/2--c_\\#0af\\\\é".toList = some (className, []) := by
  intro className
  have scheme : Text.startsWith Grammar.scheme className = true := by decide
  have readable : ∀ character ∈ className, character ∉ unreadable := by
    have all : className.all (fun character => character ∉ unreadable) = true := by decide
    exact fun character member => of_decide_eq_true (List.all_eq_true.1 all character member)
  have selector : ofClass className = ".cssf--w_1\\/2--c_\\#0af\\\\é".toList := by decide
  obtain ⟨text, dot, _, read⟩ := identifier_denotes_class scheme readable
  obtain rfl := List.tail_eq_of_cons_eq (selector.symm.trans dot)
  exact ⟨scheme, readable, selector, read⟩

end AtomicCss.Selector
