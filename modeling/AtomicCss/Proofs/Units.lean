import AtomicCss.Proofs.Decimal.Reading
import AtomicCss.Proofs.Text.Digits
import AtomicCss.Units

/-!
Contract: numeric tokens, and which of them count as pixels once their unit is applied.

Owns:
- the texts that are scaled to root ems;
- the unit table on a sign, a run of digits of any script, and a unit;
- tokens of a sign, ASCII digits and a suffix;
- the unit table on such tokens, and which of its results are scaled;
- the characters of what the unit table makes of a token.

Does not own: where numeric tokens stand in a class name.

## Why the suffix does not decide

Scaling looks at the text that the unit table gives and not at the token.  The units `div10` and
`div100` leave no unit, so where their quotient has no fraction the text is a bare integer, which
counts as pixels.
-/

namespace AtomicCss.Units

/-! ## Bare integers -/

/-- How a numeric token writes its sign. -/
inductive Sign where
  | none
  | dash
  | letter
deriving DecidableEq, Repr

namespace Sign

/-- The sign in a token. -/
def text : Sign → Text
  | none => []
  | dash => ['-']
  | letter => ['n']

/-- Both ways of writing a sign make the number negative. -/
def isNegative (sign : Sign) : Bool :=
  sign ≠ none

/-- The sign of the number. -/
def minus (sign : Sign) : Text :=
  if sign.isNegative then ['-'] else []

end Sign

theorem isPlainInteger_append
    (sign : Sign)
    {run : Text}
    (starts : run.head?.any Char.isDigit = true) :
    isPlainInteger (sign.minus ++ run) = run.all Char.isDigit := by
  obtain ⟨first, rest, rfl, digit⟩ := Decimal.exists_cons_of_starts starts
  have noDash : first ≠ '-' := Decimal.ne_of_isDigit digit (by decide)
  cases sign with
  | none => simp [isPlainInteger, Sign.minus, Sign.isNegative, noDash]
  | dash | letter => simp [isPlainInteger, Sign.minus, Sign.isNegative]

/-- A bare integer has nothing but dashes and digits in it. -/
theorem isPlainInteger_eq_false
    {text : Text}
    {character : Char}
    (member : character ∈ text)
    (noDash : character ≠ '-')
    (noDigit : character.isDigit = false) :
    isPlainInteger text = false := by
  have inside : character ∈ if text.head? = some '-' then text.tail else text := by
    split
    · rename_i signed
      cases text with
      | nil => cases member
      | cons first rest =>
          cases signed
          exact (List.mem_cons.1 member).resolve_left noDash
    · exact member
  have mixed : (if text.head? = some '-' then text.tail else text).all Char.isDigit = false := by
    rw [List.all_eq_false]
    exact ⟨character, inside, by simp [noDigit]⟩
  simp [isPlainInteger, mixed]

theorem exists_minus_eq_signText (number : Float) :
    ∃ sign : Sign, sign.minus = Decimal.signText number := by
  unfold Decimal.signText
  split
  · exact ⟨.dash, rfl⟩
  · exact ⟨.none, rfl⟩

/-- A quantity is a bare integer exactly when it has no fraction. -/
theorem isPlainInteger_quantity_iff (number : Float) :
    isPlainInteger (quantity number) = true ↔ Decimal.IsWhole number := by
  by_cases zero : (number == 0.0) = true
  · rw [quantity, if_pos zero]
    exact iff_of_true (by decide) (Decimal.isWhole_of_beq_zero zero)
  · rw [quantity, if_neg zero]
    constructor
    · intro plain
      by_contra fraction
      obtain ⟨character, member, noDash, noDigit⟩ := Decimal.write_of_not_isWhole fraction
      rw [isPlainInteger_eq_false member noDash noDigit] at plain
      cases plain
    · intro whole
      obtain ⟨digits, text, written, ascii⟩ := Decimal.write_of_isWhole whole
      have starts : digits.head?.any Char.isDigit = true := by
        cases digits with
        | nil => exact absurd rfl written
        | cons first rest => exact ascii first List.mem_cons_self
      obtain ⟨sign, same⟩ := exists_minus_eq_signText number
      rw [text, ← same, isPlainInteger_append sign starts]
      exact List.all_eq_true.2 ascii

/-- The pixels that a text counts, in root ems. -/
def rootEms (text : Text) : Text :=
  quantity (numberOf text / Grammar.pixelsPerRem) ++ "rem".toList

theorem isPlainInteger_rootEms (text : Text) : isPlainInteger (rootEms text) = false := by
  have unit : 'm' ∈ rootEms text := List.mem_append_right _ (by decide)
  exact isPlainInteger_eq_false unit (by decide) (by decide)

/-- Scaling changes every bare integer and nothing else. -/
theorem scaleToRem_eq_self_iff {text : Text} :
    scaleToRem text = text ↔ isPlainInteger text = false := by
  cases plain : isPlainInteger text with
  | false => simp [scaleToRem, plain]
  | true =>
      have scaled : scaleToRem text = rootEms text := if_pos plain
      refine iff_of_false ?_ (by decide)
      intro same
      rw [← same, scaled, isPlainInteger_rootEms] at plain
      cases plain

/-! ## Runs of digits -/

section Run

variable
  (sign : Sign)
  {run unit : Text}
  (written : run ≠ [])
  (decimal : ∀ character ∈ run, isDecimalDigit character = true)
  (ends : Text.EndsDigits unit)

include written decimal

theorem isNumeric_run (rest : Text) : isNumeric (sign.text ++ (run ++ rest)) = true := by
  obtain ⟨first, others, rfl⟩ := List.exists_cons_of_ne_nil written
  have digit := decimal first List.mem_cons_self
  cases sign with
  | dash | letter => simpa [isNumeric, startsWithDigit, Sign.text] using digit
  | none =>
      have unsigned : ¬ (first = '-' ∨ first = 'n') := by
        rintro (rfl | rfl)
        · exact absurd digit (by decide)
        · exact absurd digit (by decide)
      simp [isNumeric, Sign.text, unsigned, digit]

theorem dropSign_run (rest : Text) :
    dropSign (sign.text ++ (run ++ rest)) = (sign.isNegative, run ++ rest) := by
  obtain ⟨first, others, rfl⟩ := List.exists_cons_of_ne_nil written
  have digit := decimal first List.mem_cons_self
  cases sign with
  | dash | letter => rfl
  | none =>
      have noDash : first ≠ '-' := by
        rintro rfl
        exact absurd digit (by decide)
      have noLetter : first ≠ 'n' := by
        rintro rfl
        exact absurd digit (by decide)
      simp [dropSign, Sign.text, Sign.isNegative, noDash, noLetter]

include ends

/-- The unit table works on the number and the unit, unless the unit has a line feed. -/
theorem convert_run :
    convert (sign.text ++ (run ++ unit)) =
      if '\n' ∈ unit then sign.text ++ (run ++ unit) else withUnit (sign.minus ++ run) unit := by
  have signed : (if sign.isNegative then '-' :: run else run) = sign.minus ++ run := by
    cases sign <;> rfl
  rw [convert, if_pos (isNumeric_run sign written decimal unit), dropSign_run sign written decimal]
  simp only [Text.digits_append decimal ends, Text.afterDigits_append decimal ends, written,
    false_or, signed]

end Run

/-! ## Numeric tokens -/

/-- A sign, ASCII digits, and a suffix that does not go on with them. -/
structure NumericToken where
  sign : Sign
  digits : Text
  suffix : Text
  written : digits.head?.any Char.isDigit = true
  ascii : digits.all Char.isDigit = true
  ends : suffix.head?.any Char.isDigit = false

namespace NumericToken

variable (token : NumericToken)

/-- The token as it is written. -/
def text : Text :=
  token.sign.text ++ (token.digits ++ token.suffix)

/-- The number.  Digits of other scripts at the front of the suffix go on with it. -/
def number : Text :=
  token.sign.minus ++ (token.digits ++ Text.digits token.suffix)

/-- What follows all digits. -/
def unit : Text :=
  Text.afterDigits token.suffix

theorem number_append_unit :
    token.number ++ token.unit = token.sign.minus ++ (token.digits ++ token.suffix) := by
  rw [number, unit, List.append_assoc, List.append_assoc, Text.digits_append_afterDigits]

/-- The unit is one that divides, and the quotient has no fraction. -/
def DividesEvenly : Prop :=
  (token.unit = "div10".toList ∧ Decimal.IsWhole (numberOf token.number / 10.0)) ∨
    (token.unit = "div100".toList ∧ Decimal.IsWhole (numberOf token.number / 100.0))

instance : Decidable token.DividesEvenly :=
  inferInstanceAs (Decidable (_ ∨ _))

/-! ## The unit table -/

theorem starts_append (rest : Text) : (token.digits ++ rest).head?.any Char.isDigit = true := by
  obtain ⟨first, others, digits, digit⟩ := Decimal.exists_cons_of_starts token.written
  rw [digits]
  exact digit

theorem isDecimalDigit_of_mem_run :
    ∀ character ∈ token.digits ++ Text.digits token.suffix, isDecimalDigit character = true := by
  intro character member
  rcases List.mem_append.1 member with ascii | decimal
  · exact isDecimalDigit_of_isDigit (List.all_eq_true.1 token.ascii character ascii)
  · exact Text.isDecimalDigit_of_mem_digits decimal

theorem run_ne_nil : token.digits ++ Text.digits token.suffix ≠ [] := by
  intro none
  have starts := token.starts_append (Text.digits token.suffix)
  rw [none] at starts
  cases starts

theorem text_eq_run :
    token.text = token.sign.text ++ ((token.digits ++ Text.digits token.suffix) ++ token.unit) := by
  rw [text, unit, List.append_assoc, Text.digits_append_afterDigits]

theorem isNumeric_text : isNumeric token.text = true := by
  rw [text_eq_run]
  exact isNumeric_run token.sign token.run_ne_nil token.isDecimalDigit_of_mem_run token.unit

/-- The unit table works on the number and the unit, unless the unit has a line feed. -/
theorem convert_text :
    convert token.text =
      if '\n' ∈ token.unit then token.text else withUnit token.number token.unit := by
  rw [text_eq_run]
  exact convert_run token.sign token.run_ne_nil token.isDecimalDigit_of_mem_run
    (Text.endsDigits_afterDigits token.suffix)

/-! ## What is scaled -/

section Suffix

variable {token} (suffixed : token.suffix ≠ [])

include suffixed

/-- A unit that is kept as it is ends the integer. -/
theorem isPlainInteger_kept : isPlainInteger (token.number ++ token.unit) = false := by
  rw [number_append_unit, isPlainInteger_append _ (token.starts_append token.suffix)]
  have ends := token.ends
  cases suffix : token.suffix with
  | nil => exact absurd suffix suffixed
  | cons first rest =>
      rw [suffix] at ends
      have other : first.isDigit = false := ends
      simp [other]

theorem isPlainInteger_withUnit_iff :
    isPlainInteger (withUnit token.number token.unit) = true ↔ token.DividesEvenly := by
  unfold withUnit DividesEvenly
  split
  · rename_i percent
    have mark : '%' ∈ token.number ++ ['%'] := List.mem_append_right _ List.mem_cons_self
    simp [percent, isPlainInteger_eq_false mark (by decide) (by decide)]
  · split
    · rename_i _ ems
      have plain := isPlainInteger_rootEms token.number
      rw [rootEms] at plain
      rw [plain, ems]
      exact iff_of_false (by decide) (by simp)
    · split
      · rename_i _ _ tenths
        rw [isPlainInteger_quantity_iff, tenths]
        simp
      · split
        · rename_i _ _ _ hundredths
          rw [isPlainInteger_quantity_iff, hundredths]
          simp
        · rename_i _ _ noTenths noHundredths
          rw [isPlainInteger_kept suffixed]
          refine iff_of_false (by decide) ?_
          rintro (⟨tenths, _⟩ | ⟨hundredths, _⟩)
          · exact noTenths tenths
          · exact noHundredths hundredths

/-- With a suffix, what the table gives is a bare integer exactly for whole quotients. -/
theorem isPlainInteger_convert_iff :
    isPlainInteger (convert token.text) = true ↔ token.DividesEvenly := by
  rw [convert_text]
  split
  · rename_i broken
    have inside : '\n' ∈ token.text := by
      have suffix : '\n' ∈ token.suffix := (List.dropWhile_suffix _).subset broken
      exact List.mem_append_right _ (List.mem_append_right _ suffix)
    rw [isPlainInteger_eq_false inside (by decide) (by decide)]
    refine iff_of_false (by decide) ?_
    rintro (⟨tenths, _⟩ | ⟨hundredths, _⟩)
    · rw [tenths] at broken
      exact absurd broken (by decide)
    · rw [hundredths] at broken
      exact absurd broken (by decide)
  · exact isPlainInteger_withUnit_iff suffixed

end Suffix

/-- What the token comes to after the table and the scaling. -/
def scaled : Text :=
  scaleToRem (convert token.text)

/-- Without a suffix the token counts pixels. -/
theorem scaled_of_bare (bare : token.suffix = []) : token.scaled = rootEms token.number := by
  have unit : token.unit = [] := by
    rw [NumericToken.unit, bare]
    rfl
  have number : token.number = token.sign.minus ++ token.digits := by
    rw [NumericToken.number, bare, Text.digits, List.takeWhile_nil, List.append_nil]
  have plain : isPlainInteger token.number = true := by
    rw [number, isPlainInteger_append _ token.written]
    exact token.ascii
  have converted : convert token.text = token.number := by
    rw [convert_text, unit]
    simp [withUnit]
  rw [scaled, converted]
  exact if_pos plain

/-- With one it is what the table gives, except for whole quotients. -/
theorem scaled_eq_convert_iff (suffixed : token.suffix ≠ []) :
    token.scaled = convert token.text ↔ ¬ token.DividesEvenly := by
  rw [scaled, scaleToRem_eq_self_iff, ← isPlainInteger_convert_iff suffixed, Bool.not_eq_true]

theorem scaled_of_dividesEvenly
    (suffixed : token.suffix ≠ [])
    (even : token.DividesEvenly) :
    token.scaled = rootEms (convert token.text) :=
  if_pos ((isPlainInteger_convert_iff suffixed).2 even)

/-- For natural numbers below `2 ^ 53` the quotient is whole exactly when the number is a multiple
of the divisor. -/
theorem dividesEvenly_iff
    (ascii : Text.digits token.suffix = [])
    (small : Text.digitsValue token.digits < 2 ^ 53) :
    token.DividesEvenly ↔
      (token.suffix = "div10".toList ∧ 10 ∣ Text.digitsValue token.digits) ∨
        (token.suffix = "div100".toList ∧ 100 ∣ Text.digitsValue token.digits) := by
  have unit : token.unit = token.suffix := by
    have parts := Text.digits_append_afterDigits token.suffix
    rwa [ascii, List.nil_append] at parts
  have number : token.number = token.sign.minus ++ token.digits := by
    rw [NumericToken.number, ascii, List.append_nil]
  have whole {divisor : Float} {parts : Nat} (divided : Decimal.Counts divisor parts) :
      Decimal.IsWhole (numberOf token.number / divisor) ↔
        parts ∣ Text.digitsValue token.digits := by
    rw [number]
    exact Decimal.isWhole_read?_div_iff token.written token.ascii small _ divided
  rw [DividesEvenly, unit, whole Decimal.counts_ten, whole Decimal.counts_hundred]

end NumericToken

/-! ## Characters -/

/-- A character that the unit table can write: one of a number, or of the units that it has of its
own. -/
def IsWritten (character : Char) : Prop :=
  Decimal.IsNumeral character ∨ character ∈ ['%', 'r', 'e', 'm']

instance : DecidablePred IsWritten := fun character =>
  inferInstanceAs (Decidable (Decimal.IsNumeral character ∨ _))

theorem isWritten_of_mem_quantity {number : Float} :
    ∀ character ∈ quantity number, IsWritten character := by
  unfold quantity
  split
  · exact fun character zero => Or.inl (Or.inl (List.mem_singleton.1 zero ▸ rfl))
  · exact fun character member => Or.inl (Decimal.isNumeral_of_mem_write character member)

theorem of_mem_withUnit {written unit : Text} :
    ∀ character ∈ withUnit written unit,
      character ∈ written ∨ character ∈ unit ∨ IsWritten character := by
  unfold withUnit
  intro character member
  split at member
  · rcases List.mem_append.1 member with number | percent
    · exact Or.inl number
    · exact Or.inr (Or.inr (Or.inr (by simp [List.mem_singleton.1 percent])))
  · split at member
    · rcases List.mem_append.1 member with number | unit
      · exact Or.inr (Or.inr (isWritten_of_mem_quantity character number))
      · exact Or.inr (Or.inr (Or.inr ((by decide : "rem".toList ⊆ _) unit)))
    · split at member
      · exact Or.inr (Or.inr (isWritten_of_mem_quantity character member))
      · split at member
        · exact Or.inr (Or.inr (isWritten_of_mem_quantity character member))
        · rcases List.mem_append.1 member with number | unit
          · exact Or.inl number
          · exact Or.inr (Or.inl unit)

theorem dropSign_suffix (token : Text) : (dropSign token).2 <:+ token := by
  unfold dropSign
  split
  · exact List.suffix_cons 'n' _
  · exact List.suffix_cons '-' _
  · exact List.suffix_rfl

/-- What the unit table makes of a token has the characters of the token, and those that the table
can write. -/
theorem of_mem_convert {token : Text} :
    ∀ character ∈ convert token, character ∈ token ∨ IsWritten character := by
  intro character member
  unfold convert at member
  split at member
  · dsimp only at member
    split at member
    · exact Or.inl member
    · have body := (dropSign_suffix token).subset
      have digits : Text.digits (dropSign token).2 ⊆ token :=
        List.Subset.trans (List.takeWhile_prefix _).subset body
      have unit : Text.afterDigits (dropSign token).2 ⊆ token :=
        List.Subset.trans (List.dropWhile_suffix _).subset body
      rcases of_mem_withUnit character member with number | kept | written
      · split at number
        · rcases List.mem_cons.1 number with rfl | digit
          · exact Or.inr (Or.inl (Or.inr (by decide)))
          · exact Or.inl (digits digit)
        · exact Or.inl (digits number)
      · exact Or.inl (unit kept)
      · exact Or.inr written
  · exact Or.inl member

end AtomicCss.Units
