import AtomicCss.Decimal.Reader
import AtomicCss.Proofs.Decimal.Quotient

/-!
Contract: runs of digits as decimal texts.

Owns:
- the number that a run of ASCII digits reads as, with a minus sign or without;
- when its quotient with another natural number is whole.

Does not own: decimals with a point or an exponent.
-/

namespace AtomicCss.Decimal

theorem ne_of_isDigit
    {digit other : Char}
    (isDigit : digit.isDigit = true)
    (noDigit : other.isDigit = false) :
    digit ≠ other := by
  rintro rfl
  rw [isDigit] at noDigit
  cases noDigit

section Digits

variable {digits : Text} (starts : digits.head?.any Char.isDigit = true)

include starts

theorem exists_cons_of_starts :
    ∃ first rest, digits = first :: rest ∧ first.isDigit = true := by
  cases digits with
  | nil => cases starts
  | cons first rest => exact ⟨first, rest, rfl, starts⟩

/-- A run of digits is none of the words for numbers that are not finite. -/
theorem map_toLower_ne {letter : Char} {word : Text} (other : letter.isDigit = false) :
    digits.map Char.toLower ≠ letter :: word := by
  obtain ⟨first, rest, rfl, digit⟩ := exists_cons_of_starts starts
  intro same
  have lower : first.toLower = first := by
    have bound : first.val ≤ '9'.val := by
      simp only [Char.isDigit, Bool.and_eq_true, decide_eq_true_eq] at digit
      exact digit.2
    have noCapital : ¬ (first.val ≥ 'A'.val ∧ first.val ≤ 'Z'.val) := by
      intro capital
      exact absurd (UInt32.le_trans capital.1 bound) (by decide)
    exact dif_neg noCapital
  rw [List.map_cons, lower] at same
  exact ne_of_isDigit digit other (List.head_eq_of_cons_eq same)

theorem takeSign_append (negative : Bool) :
    takeSign ((if negative then ['-'] else []) ++ digits) = (negative, digits) := by
  obtain ⟨first, rest, rfl, digit⟩ := exists_cons_of_starts starts
  cases negative with
  | true => rfl
  | false =>
      have noMinus : first ≠ '-' := ne_of_isDigit digit (by decide)
      have noPlus : first ≠ '+' := ne_of_isDigit digit (by decide)
      simp [takeSign, noMinus, noPlus]

theorem read?_digits (ascii : digits.all Char.isDigit = true) (negative : Bool) :
    read? ((if negative then ['-'] else []) ++ digits) =
      some (ofScaled negative (Text.digitsValue digits) 0) := by
  have all := List.all_eq_true.1 ascii
  have whole : digits.takeWhile Char.isDigit = digits := by
    have kept : (digits ++ []).takeWhile Char.isDigit = digits ++ [].takeWhile Char.isDigit :=
      List.takeWhile_append_of_pos all
    simpa using kept
  have rest : digits.dropWhile Char.isDigit = [] := by
    have dropped : (digits ++ []).dropWhile Char.isDigit = [].dropWhile Char.isDigit :=
      List.dropWhile_append_of_pos all
    simpa using dropped
  have written : digits ≠ [] := by
    rintro rfl
    cases starts
  have unsigned : readUnsigned? negative digits =
      some (ofScaled negative (Text.digitsValue digits) 0) := by
    simp [readUnsigned?, whole, rest, written, readExponent?]
  simp only [read?, takeSign_append starts]
  rw [if_neg, if_neg, unsigned]
  · exact map_toLower_ne starts (by decide : ('n' : Char).isDigit = false)
  · rintro (infinite | infinite)
    · exact map_toLower_ne starts (by decide : ('i' : Char).isDigit = false) infinite
    · exact map_toLower_ne starts (by decide : ('i' : Char).isDigit = false) infinite

end Digits

theorem ofScaled_zero {count : Nat} (small : count < 2 ^ 53) (negative : Bool) :
    ofScaled negative count 0 = nearest negative count 1 := by
  have length : (Nat.toDigits 10 count).length ≤ 16 :=
    (Nat.length_toDigits_le_iff (by decide) (by decide)).2 (Nat.lt_trans small (by decide))
  unfold ofScaled
  simp only
  split
  · rename_i none
    have zero : count = 0 := by omega
    rw [zero]
  · rw [if_neg (by omega)]
    simp

/-- The quotient of a natural number that is written in digits is whole exactly when it is a
natural number. -/
theorem isWhole_read?_div_iff
    {digits : Text}
    (starts : digits.head?.any Char.isDigit = true)
    (ascii : digits.all Char.isDigit = true)
    (small : Text.digitsValue digits < 2 ^ 53)
    (negative : Bool)
    {divisor : Float}
    {parts : Nat}
    (divided : Counts divisor parts) :
    IsWhole ((read? ((if negative then ['-'] else []) ++ digits)).getD 0.0 / divisor) ↔
      parts ∣ Text.digitsValue digits := by
  rw [read?_digits starts ascii, ofScaled_zero small, Option.getD_some]
  by_cases zero : Text.digitsValue digits = 0
  · have unpacked : ∃ sign, (nearest negative 0 1).toModel.unpack = .zero sign := by
      cases negative
      · exact ⟨.positive, rfl⟩
      · exact ⟨.negative, rfl⟩
    obtain ⟨sign, unpacked⟩ := unpacked
    rw [zero]
    exact iff_of_true (isWhole_zero_div unpacked divided) (Nat.dvd_zero parts)
  · exact isWhole_div_iff (counts_nearest (Nat.pos_of_ne_zero zero) small negative) divided

end AtomicCss.Decimal
