import AtomicCss.Lexicon.Template
import AtomicCss.Proofs.Text.Replacing

/-!
Contract: texts in which the placeholders of several indices are filled in.

Owns:
- the values of the numbers that indices write;
- filling in one entry after the other, the last entry first;
- filling in on the two sides of a character that no placeholder has;
- the characters of the text that comes out, and which arguments they are from.

Does not own: which placeholders a text has.
-/

namespace AtomicCss

namespace Text

/-! ## Numbers -/

theorem isDigit_of_mem_ofNat {number : Nat} {character : Char}
    (member : character ∈ ofNat number) :
    character.isDigit = true :=
  Nat.isDigit_of_mem_toDigits (by decide) (by decide) member

/-- A character that is no digit is not in a number. -/
theorem not_mem_ofNat {character : Char} (other : character.isDigit = false) (number : Nat) :
    character ∉ ofNat number := by
  intro member
  rw [isDigit_of_mem_ofNat member] at other
  cases other

theorem digitsValue_eq_ofDigitChars (run : Text) : digitsValue run = Nat.ofDigitChars 10 run 0 := by
  simp only [digitsValue, Nat.ofDigitChars_eq_foldl, Nat.mul_comm]

/-- The digits of a number write the number. -/
theorem digitsValue_ofNat (number : Nat) : digitsValue (ofNat number) = number := by
  rw [digitsValue_eq_ofDigitChars]
  exact Nat.ofDigitChars_ten_toDigits

/-- A number that starts another one is not above it. -/
theorem le_of_ofNat_prefix {front number : Nat} (starts : ofNat front <+: ofNat number) :
    front ≤ number := by
  obtain ⟨rest, same⟩ := starts
  have value := congrArg digitsValue same
  rw [digitsValue_ofNat, digitsValue_eq_ofDigitChars, Nat.ofDigitChars_append,
    ← digitsValue_eq_ofDigitChars, digitsValue_ofNat,
    Nat.ofDigitChars_eq_ofDigitChars_zero] at value
  have scaled : front ≤ 10 ^ rest.length * front :=
    Nat.le_mul_of_pos_left front (Nat.pow_pos (by decide))
  omega

end Text

namespace Template

/-- Fill in entries, each an argument and its index, from the last one to the first. -/
def fillEach (entries : List (Text × Nat)) (text : Text) : Text :=
  entries.foldr (fun entry text => fill text entry.2 entry.1) text

theorem substitute_eq (blueprint : Text) (arguments : List Text) :
    substitute ⟨blueprint⟩ arguments = fillEach arguments.zipIdx blueprint := rfl

theorem fillEach_cons (entry : Text × Nat) (entries : List (Text × Nat)) (text : Text) :
    fillEach (entry :: entries) text = fill (fillEach entries text) entry.2 entry.1 := rfl

/-- What holds of every argument holds of every entry. -/
theorem forall_mem_zipIdx
    {property : Text → Prop}
    {arguments : List Text}
    (all : ∀ argument ∈ arguments, property argument) :
    ∀ entry ∈ arguments.zipIdx, property entry.1 :=
  fun entry member => all entry.1 (List.fst_mem_of_mem_zipIdx member)

/-! ## Sides -/

/-- A text without placeholders stays as it is. -/
theorem fillEach_append_of_not_mem
    {front : Text}
    (absent : Grammar.placeholder ∉ front)
    (entries : List (Text × Nat))
    (rest : Text) :
    fillEach entries (front ++ rest) = front ++ fillEach entries rest := by
  induction entries with
  | nil => rfl
  | cons entry others inductionHypothesis =>
      rw [fillEach_cons, inductionHypothesis, fill, Text.replace_append_of_not_mem absent]
      rfl

/-- No placeholder reaches over a character that is neither its sign nor a digit. -/
theorem fillEach_append_cons
    {character : Char}
    (other : character ≠ Grammar.placeholder)
    (noDigit : character.isDigit = false)
    (entries : List (Text × Nat))
    (front rest : Text) :
    fillEach entries (front ++ character :: rest) =
      fillEach entries front ++ character :: fillEach entries rest := by
  induction entries with
  | nil => rfl
  | cons entry others inductionHypothesis =>
      have absent := Text.not_mem_ofNat noDigit entry.2
      rw [fillEach_cons, inductionHypothesis, fill, Text.replace_append_cons other absent]
      rfl

theorem fillEach_nil (entries : List (Text × Nat)) : fillEach entries [] = [] := by
  induction entries with
  | nil => rfl
  | cons entry others inductionHypothesis =>
      rw [fillEach_cons, inductionHypothesis, fill, Text.replace_nil]

/-- Texts that are joined by two dashes are filled in one by one. -/
theorem fillEach_intercalate (entries : List (Text × Nat)) (pieces : List Text) :
    fillEach entries (List.intercalate ['-', '-'] pieces) =
      List.intercalate ['-', '-'] (pieces.map (fillEach entries)) := by
  induction pieces with
  | nil => exact fillEach_nil entries
  | cons piece others inductionHypothesis =>
      cases others with
      | nil => simp
      | cons next others =>
          have joined (first second : Text) (rest : List Text) :
              List.intercalate ['-', '-'] (first :: second :: rest) =
                first ++ '-' :: ([] ++ '-' :: List.intercalate ['-', '-'] (second :: rest)) := by
            simp [List.intercalate_cons_cons]
          rw [List.map_cons, List.map_cons, joined, joined,
            fillEach_append_cons (by decide) (by decide),
            fillEach_append_cons (by decide) (by decide), fillEach_nil, inductionHypothesis,
            List.map_cons]

/-! ## Characters -/

/-- A character that no placeholder has comes from the text, or from an entry whose
placeholder is in the text when the entries after it are filled in. -/
theorem mem_fillEach_iff
    {character : Char}
    (other : character ≠ Grammar.placeholder)
    (noDigit : character.isDigit = false)
    (entries : List (Text × Nat))
    (text : Text) :
    character ∈ fillEach entries text ↔
      character ∈ text ∨
        ∃ position entry, entries[position]? = some entry ∧ character ∈ entry.1 ∧
          Grammar.placeholder :: Text.ofNat entry.2 <:+:
            fillEach (entries.drop (position + 1)) text := by
  induction entries with
  | nil => simp [fillEach]
  | cons entry others inductionHypothesis =>
      have absent := Text.not_mem_ofNat noDigit entry.2
      rw [fillEach_cons, fill, Text.mem_replace_iff other absent, inductionHypothesis, or_assoc]
      refine or_congr_right ⟨?_, ?_⟩
      · rintro (⟨position, later⟩ | first)
        · exact ⟨position + 1, later⟩
        · exact ⟨0, entry, rfl, first⟩
      · rintro ⟨_ | position, found, there, occurs⟩
        · rw [List.getElem?_cons_zero, Option.some.injEq] at there
          subst there
          exact Or.inr occurs
        · exact Or.inl ⟨position, found, there, occurs⟩

/-- The argument of an index gets into the text: its placeholder is there once the arguments after
it are filled in. -/
def Shows (template : Template) (arguments : List Text) (index : Nat) : Prop :=
  Grammar.placeholder :: Text.ofNat index <:+:
    fillEach (arguments.zipIdx.drop (index + 1)) template.blueprint

theorem mem_substitute_iff
    {character : Char}
    (other : character ≠ Grammar.placeholder)
    (noDigit : character.isDigit = false)
    (template : Template)
    (arguments : List Text) :
    character ∈ template.substitute arguments ↔
      character ∈ template.blueprint ∨
        ∃ index argument, arguments[index]? = some argument ∧ character ∈ argument ∧
          template.Shows arguments index := by
  have entries (index : Nat) : arguments.zipIdx[index]? =
      arguments[index]?.map fun argument => (argument, index) := by
    simp [List.getElem?_zipIdx]
  rw [substitute_eq, mem_fillEach_iff other noDigit]
  simp only [entries, Option.map_eq_some_iff, Shows]
  refine or_congr_right (exists_congr fun index => ?_)
  constructor
  · rintro ⟨_, ⟨argument, found, rfl⟩, inside, shown⟩
    exact ⟨argument, found, inside, shown⟩
  · rintro ⟨argument, found, inside, shown⟩
    exact ⟨(argument, index), ⟨argument, found, rfl⟩, inside, shown⟩

end Template

end AtomicCss
