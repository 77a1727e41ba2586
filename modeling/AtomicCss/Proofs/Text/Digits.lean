import AtomicCss.Text.Blank
import AtomicCss.Text.DecimalDigit
import Mathlib.Data.List.TakeWhile

/-!
Contract: runs of decimal digits in front of other text, and the numbers that they write.

Owns:
- the digit run of a text that is put together from a run and what follows it;
- that no digit is blank;
- which runs are read as numbers below a limit.

Does not own: where in a text a run is looked for.
-/

namespace AtomicCss

/-- No decimal digit of any script is a blank. -/
theorem isBlank_of_isDecimalDigit {character : Char}
    (decimal : isDecimalDigit character = true) :
    isBlank character = false := by
  -- The blanks lie in three gaps between the runs of digits.
  have gaps : ∀ start ∈ digitZeros,
      (0xA0 < start ∧ start + 9 < 0x1680) ∨ (0x1680 < start ∧ start + 9 < 0x2000) ∨
        0x3000 < start := by
    decide
  have digit : (48 ≤ character.toNat ∧ character.toNat ≤ 57) ∨
      ∃ start ∈ digitZeros, start ≤ character.toNat ∧ character.toNat ≤ start + 9 := by
    simpa [isDecimalDigit, Char.isDigit, Char.le_def, UInt32.le_iff_toNat_le] using decimal
  rw [Bool.eq_false_iff]
  intro blank
  simp only [isBlank, Bool.or_eq_true, Bool.and_eq_true, decide_eq_true_eq] at blank
  rcases digit with ascii | ⟨start, member, above, below⟩
  · omega
  · have gap := gaps start member
    omega

namespace Text

/-- A text does not go on with a digit. -/
def EndsDigits (text : Text) : Prop :=
  ∀ character ∈ text.head?, isDecimalDigit character = false

section Runs

variable
  {run rest : Text}
  (decimal : ∀ character ∈ run, isDecimalDigit character = true)
  (ends : EndsDigits rest)

include decimal ends

theorem digits_append : digits (run ++ rest) = run := by
  rw [digits, List.takeWhile_append_of_pos decimal]
  cases rest with
  | nil => simp
  | cons character rest =>
      rw [List.takeWhile_cons_of_neg (by simp [ends character rfl]), List.append_nil]

theorem afterDigits_append : afterDigits (run ++ rest) = rest := by
  rw [afterDigits, List.dropWhile_append_of_pos decimal]
  cases rest with
  | nil => rfl
  | cons character rest =>
      rw [List.dropWhile_cons_of_neg (by simp [ends character rfl])]

end Runs

theorem endsDigits_afterDigits (text : Text) : EndsDigits (afterDigits text) := by
  intro character member
  rw [afterDigits, Option.mem_def] at member
  have first := List.head?_dropWhile_not isDecimalDigit text
  rwa [member] at first

theorem isDecimalDigit_of_mem_digits {text : Text} {character : Char}
    (member : character ∈ digits text) :
    isDecimalDigit character = true :=
  List.mem_takeWhile_imp member

/-- A run is read as its value, if it has ASCII digits only and the value is below the limit. -/
theorem toNatBelow?_eq_some_iff {limit value : Nat} {run : Text} :
    toNatBelow? limit run = some value ↔
      run ≠ [] ∧ (∀ character ∈ run, character.isDigit = true) ∧ digitsValue run = value ∧
        value < limit := by
  simp only [toNatBelow?, List.all_eq_true]
  constructor
  · intro read
    split at read
    · rename_i readable
      obtain rfl := Option.some.inj read
      exact ⟨readable.1, readable.2.1, rfl, readable.2.2⟩
    · cases read
  · rintro ⟨written, ascii, rfl, small⟩
    exact if_pos ⟨written, ascii, small⟩

end Text

end AtomicCss
