import AtomicCss.Decimal.Reader
import AtomicCss.Proofs.Decimal.Whole

/-!
Contract: quotients of natural numbers.

Owns:
- rounding a quotient to one of the nearest natural numbers;
- the numbers that stand for a natural number of at most 53 binary digits;
- which quotients of such numbers are whole.

Does not own: the text of a quotient.

## Why rounding makes no quotient whole

Rounding moves a quotient by at most half a unit in its last place.  A quotient that is not whole
is at least one part in the divisor away from the next whole number, and that is more, since the
quotient has more binary digits after the point than the divisor has in all.
-/

namespace AtomicCss.Decimal

open Float.Model
open Float.Model.UnpackedFloat

/-! ## Rounded quotients -/

/-- Less than one unit does not tell naturals apart. -/
theorem le_of_mul_le_mul_add
    {left right unit rest : Nat}
    (bound : 2 * (left * unit) ≤ 2 * (right * unit) + rest)
    (small : rest < 2 * unit) :
    left ≤ right := by
  by_contra more
  have further := Nat.mul_le_mul_right unit (Nat.lt_of_not_le more)
  rw [Nat.succ_mul] at further
  omega

/-- No natural number is nearer to the quotient than this one. -/
def NearestTo (rounded numerator denominator : Nat) : Prop :=
  2 * (rounded * denominator) ≤ 2 * numerator + denominator ∧
    2 * numerator ≤ 2 * (rounded * denominator) + denominator

/-- On a scale that is fine enough, the rounded quotient is whole exactly for a divisor. -/
theorem NearestTo.dvd_iff
    {rounded count divisor scale : Nat}
    (nearest : NearestTo rounded (count * scale) divisor)
    (positive : 0 < divisor)
    (fine : divisor < 2 * scale) :
    scale ∣ rounded ↔ divisor ∣ count := by
  obtain ⟨above, below⟩ := nearest
  constructor
  · rintro ⟨quotient, rfl⟩
    have scaled : scale * quotient * divisor = divisor * quotient * scale := by ring
    rw [scaled] at above below
    have most : divisor * quotient ≤ count := le_of_mul_le_mul_add above fine
    have least : count ≤ divisor * quotient := le_of_mul_le_mul_add below fine
    exact ⟨quotient, Nat.le_antisymm least most⟩
  · rintro ⟨quotient, rfl⟩
    have scaled : divisor * quotient * scale = quotient * scale * divisor := by ring
    rw [scaled] at above below
    have half : divisor < 2 * divisor := by omega
    have most : rounded ≤ quotient * scale := le_of_mul_le_mul_add above half
    have least : quotient * scale ≤ rounded := le_of_mul_le_mul_add below half
    rw [Nat.le_antisymm most least]
    exact Nat.dvd_mul_left scale quotient

theorem NearestTo.bounds
    {rounded numerator denominator least most : Nat}
    (nearest : NearestTo rounded numerator denominator)
    (positive : 0 < denominator)
    (above : least * denominator ≤ numerator)
    (below : numerator < most * denominator) :
    least ≤ rounded ∧ rounded ≤ most := by
  obtain ⟨high, low⟩ := nearest
  have half : denominator < 2 * denominator := by omega
  constructor
  · apply le_of_mul_le_mul_add _ half
    omega
  · apply le_of_mul_le_mul_add _ half
    omega

theorem NearestTo.of_mul
    {rounded numerator denominator factor : Nat}
    (positive : 0 < factor)
    (nearest : NearestTo rounded (numerator * factor) (denominator * factor)) :
    NearestTo rounded numerator denominator := by
  obtain ⟨above, below⟩ := nearest
  constructor
  · refine Nat.le_of_mul_le_mul_right ?_ positive
    calc
      2 * (rounded * denominator) * factor = 2 * (rounded * (denominator * factor)) := by ring
      _ ≤ 2 * (numerator * factor) + denominator * factor := above
      _ = (2 * numerator + denominator) * factor := by ring
  · refine Nat.le_of_mul_le_mul_right ?_ positive
    calc
      2 * numerator * factor = 2 * (numerator * factor) := by ring
      _ ≤ 2 * (rounded * (denominator * factor)) + denominator * factor := below
      _ = (2 * (rounded * denominator) + denominator) * factor := by ring

/-- The powers of two that two mantissas were filled up with cancel but for the scale. -/
theorem NearestTo.of_shifted
    {rounded count parts left right shift scale : Nat}
    (places : left + 53 = scale + right + shift)
    (nearest :
      NearestTo rounded (count * 2 ^ left * 2 ^ 53) (2 ^ shift * (parts * 2 ^ right))) :
    NearestTo rounded (count * 2 ^ scale) parts := by
  have unit : 0 < 2 ^ right * 2 ^ shift := Nat.mul_pos (Nat.two_pow_pos _) (Nat.two_pow_pos _)
  have numerator : count * 2 ^ scale * (2 ^ right * 2 ^ shift) = count * 2 ^ left * 2 ^ 53 := by
    rw [Nat.mul_assoc count, Nat.mul_assoc count, ← Nat.pow_add, ← Nat.pow_add, ← Nat.pow_add,
      places, Nat.add_assoc]
  have denominator : parts * (2 ^ right * 2 ^ shift) = 2 ^ shift * (parts * 2 ^ right) := by ring
  apply NearestTo.of_mul unit
  rw [numerator, denominator]
  exact nearest

/-- The digits of the quotient and what the remainder tells about the next ones. -/
def digitsOf (numerator denominator : Nat) : ExtendedMantissa :=
  .ofMantissaAndAccuracy (numerator / denominator)
    (accuracyOfFraction (numerator % denominator) denominator)

theorem mantissa_digitsOf (numerator denominator : Nat) :
    (digitsOf numerator denominator).mantissa = numerator / denominator := by
  unfold digitsOf accuracyOfFraction
  split
  · rfl
  · cases compare (2 * (numerator % denominator)) denominator <;> rfl

theorem exact_digitsOf_iff (numerator denominator : Nat) :
    ((digitsOf numerator denominator).roundBit || (digitsOf numerator denominator).stickyBit) =
      decide (numerator % denominator ≠ 0) := by
  unfold digitsOf accuracyOfFraction
  split
  · rename_i none
    simp [none, ExtendedMantissa.ofMantissaAndAccuracy]
  · rename_i some
    cases compare (2 * (numerator % denominator)) denominator <;>
      simp [some, ExtendedMantissa.ofMantissaAndAccuracy]

section Rounding

variable {numerator denominator : Nat} (positive : 0 < denominator)

include positive

theorem nearestTo_digitsOf :
    NearestTo (digitsOf numerator denominator).roundedMantissa numerator denominator := by
  have parts := Nat.div_add_mod numerator denominator
  have small := Nat.mod_lt numerator positive
  unfold digitsOf accuracyOfFraction
  generalize numerator / denominator = quotient at parts ⊢
  generalize numerator % denominator = remainder at parts small ⊢
  rw [Nat.mul_comm] at parts
  split
  · show NearestTo quotient numerator denominator
    constructor <;> omega
  · cases half : compare (2 * remainder) denominator with
    | lt =>
        rw [Nat.compare_eq_lt] at half
        show NearestTo quotient numerator denominator
        constructor <;> omega
    | eq =>
        rw [Nat.compare_eq_eq] at half
        show NearestTo (quotient + quotient % 2) numerator denominator
        rcases Nat.mod_two_eq_zero_or_one quotient with even | odd
        · rw [even]
          constructor <;> simp only [Nat.add_mul] <;> omega
        · rw [odd]
          constructor <;> simp only [Nat.add_mul] <;> omega
    | gt =>
        rw [Nat.compare_eq_gt] at half
        show NearestTo (quotient + 1) numerator denominator
        constructor <;> simp only [Nat.add_mul] <;> omega

/-- With a shift the last digit tells it, and the remainder only breaks ties. -/
theorem nearestTo_shiftRightOne_digitsOf :
    NearestTo (digitsOf numerator denominator).shiftRightOne.roundedMantissa
      numerator (2 * denominator) := by
  have parts := Nat.div_add_mod numerator denominator
  have small := Nat.mod_lt numerator positive
  have halves := Nat.div_add_mod (numerator / denominator) 2
  have shifted : (digitsOf numerator denominator).shiftRightOne =
      ⟨numerator / denominator / 2, numerator / denominator % 2 != 0,
        decide (numerator % denominator ≠ 0)⟩ := by
    rw [ExtendedMantissa.shiftRightOne, mantissa_digitsOf, exact_digitsOf_iff]
  rw [shifted]
  generalize numerator / denominator = quotient at parts halves ⊢
  generalize numerator % denominator = remainder at parts small ⊢
  generalize quotient / 2 = half at halves ⊢
  rw [← halves, Nat.mul_add, ← Nat.mul_assoc, Nat.mul_comm _ half,
    Nat.mul_comm denominator 2] at parts
  -- The digit that is shifted out is half a unit now, and the remainder less than that.
  rcases Nat.mod_two_eq_zero_or_one quotient with even | odd
  · rw [even] at parts ⊢
    have rounded :
        (ExtendedMantissa.mk half (0 != 0) (decide (remainder ≠ 0))).roundedMantissa = half := by
      cases decide (remainder ≠ 0) <;> rfl
    rw [rounded]
    constructor <;> omega
  · rw [odd] at parts ⊢
    by_cases tie : remainder = 0
    · subst tie
      show NearestTo (half + half % 2) numerator (2 * denominator)
      rcases Nat.mod_two_eq_zero_or_one half with even | odd
      · rw [even, Nat.add_zero]
        constructor <;> omega
      · rw [odd]
        constructor <;> simp only [Nat.add_mul] <;> omega
    · have rounded :
          (ExtendedMantissa.mk half (1 != 0) (decide (remainder ≠ 0))).roundedMantissa =
            half + 1 := by
        rw [decide_eq_true tie]
        rfl
      rw [rounded]
      constructor <;> simp only [Nat.add_mul] <;> omega

end Rounding

/-! ## The mantissa of a rounded quotient -/

/-- A mantissa with more than 53 digits is shifted until it has 53. -/
theorem shiftToTargetExponent_of_log2
    {mantissa shift : Nat}
    {exponent : Int}
    (digits : mantissa.log2 = 52 + shift)
    (range : -1074 ≤ exponent + shift)
    (accuracy : Accuracy) :
    shiftToTargetExponent Format.binary64 mantissa exponent accuracy =
      (ExtendedMantissa.ofMantissaAndAccuracy mantissa accuracy >>> shift, exponent + shift) := by
  have target : Format.binary64.targetExponent (totalExponent mantissa exponent) =
      exponent + shift := by
    show max (totalExponent mantissa exponent - 53) (-1074) = exponent + shift
    rw [totalExponent, digits]
    omega
  have amount : (exponent + shift - exponent).toNat = shift := by omega
  rw [shiftToTargetExponent, target, shiftToExponent, amount]

/-- A mantissa that is rounded up to 54 digits ends with a zero, which moves to the exponent. -/
def carry (mantissa : Nat) (exponent : Int) : Nat × Int :=
  if mantissa < 2 ^ 53 then (mantissa, exponent) else (2 ^ 52, exponent + 1)

section Carry

variable {mantissa : Nat} (fits : mantissa ≤ 2 ^ 53)

include fits

theorem shiftToTargetExponent_exact
    {exponent : Int}
    (full : 2 ^ 52 ≤ mantissa)
    (range : -1074 ≤ exponent) :
    shiftToTargetExponent Format.binary64 mantissa exponent .exact =
      (⟨(carry mantissa exponent).1, false, false⟩, (carry mantissa exponent).2) := by
  unfold carry
  split
  · rename_i below
    have digits : mantissa.log2 = 52 + 0 := (Nat.log2_eq_iff (by omega)).2 ⟨full, below⟩
    rw [shiftToTargetExponent_of_log2 digits (by omega), Int.natCast_zero, Int.add_zero]
    rfl
  · obtain rfl : mantissa = 2 ^ 53 := by omega
    have digits : (2 ^ 53).log2 = 52 + 1 := by rw [Nat.log2_two_pow]
    rw [shiftToTargetExponent_of_log2 digits (by omega)]
    rfl

/-- Carrying does not change whether the number is whole. -/
theorem dvd_carry_iff (exponent : Int) :
    Nat.pow 2 (-(carry mantissa exponent).2).toNat ∣ (carry mantissa exponent).1 ↔
      Nat.pow 2 (-exponent).toNat ∣ mantissa := by
  unfold carry
  split
  · exact Iff.rfl
  · obtain rfl : mantissa = 2 ^ 53 := by omega
    simp only [Nat.pow_eq]
    rw [Nat.pow_dvd_pow_iff_le_right (by decide), Nat.pow_dvd_pow_iff_le_right (by decide)]
    omega

theorem carry_full (full : 2 ^ 52 ≤ mantissa) (exponent : Int) :
    2 ^ 52 ≤ (carry mantissa exponent).1 ∧ (carry mantissa exponent).1 < 2 ^ 53 := by
  unfold carry
  split <;> simp only <;> omega

end Carry

theorem carry_exponent (mantissa : Nat) (exponent : Int) :
    exponent ≤ (carry mantissa exponent).2 ∧ (carry mantissa exponent).2 ≤ exponent + 1 := by
  unfold carry
  split <;> simp only <;> omega

theorem roundWithAccuracy_of_log2
    {mantissa shift rounded : Nat}
    {exponent : Int}
    {accuracy : Accuracy}
    (digits : mantissa.log2 = 52 + shift)
    (range : -1074 ≤ exponent + shift)
    (rounding :
      (ExtendedMantissa.ofMantissaAndAccuracy mantissa accuracy >>> shift).roundedMantissa =
        rounded)
    (full : 2 ^ 52 ≤ rounded)
    (fits : rounded ≤ 2 ^ 53)
    (sign : Sign) :
    ∃ written,
      roundWithAccuracy Format.binary64 sign mantissa exponent accuracy =
        .finite sign (carry rounded (exponent + shift)).1 (carry rounded (exponent + shift)).2
          written := by
  have nonzero : (carry rounded (exponent + shift)).1 ≠ 0 := by
    have bounds := carry_full fits full (exponent + shift)
    omega
  refine ⟨Nat.pos_of_ne_zero nonzero, ?_⟩
  rw [roundWithAccuracy, shiftToTargetExponent_of_log2 digits range]
  simp only [rounding, shiftToTargetExponent_exact fits full range, dif_neg nonzero]

theorem roundWithAccuracy_digitsOf
    {numerator denominator : Nat}
    {exponent : Int}
    (positive : 0 < denominator)
    (least : 2 ^ 52 * denominator ≤ numerator)
    (most : numerator < 2 ^ 54 * denominator)
    (range : -1074 ≤ exponent)
    (sign : Sign) :
    ∃ shift rounded : Nat,
      shift ≤ 1 ∧
        NearestTo rounded numerator (2 ^ shift * denominator) ∧
        2 ^ 52 ≤ rounded ∧
        rounded ≤ 2 ^ 53 ∧
        ∃ written,
          roundWithAccuracy Format.binary64 sign (numerator / denominator) exponent
              (accuracyOfFraction (numerator % denominator) denominator) =
            .finite sign (carry rounded (exponent + shift)).1 (carry rounded (exponent + shift)).2
              written := by
  have low : 2 ^ 52 ≤ numerator / denominator := (Nat.le_div_iff_mul_le positive).2 least
  -- The divisor can have more or fewer leading digits than the dividend.
  by_cases short : numerator < 2 ^ 53 * denominator
  · have high : numerator / denominator < 2 ^ 53 := (Nat.div_lt_iff_lt_mul positive).2 short
    have digits : (numerator / denominator).log2 = 52 + 0 :=
      (Nat.log2_eq_iff (by omega)).2 ⟨low, high⟩
    have nearest : NearestTo (digitsOf numerator denominator).roundedMantissa numerator
        denominator := nearestTo_digitsOf positive
    obtain ⟨full, fits⟩ := nearest.bounds positive least short
    have inRange : -1074 ≤ exponent + (0 : Nat) := by omega
    have result := roundWithAccuracy_of_log2 digits inRange rfl full fits sign
    refine ⟨0, _, by decide, ?_, full, fits, result⟩
    rwa [Nat.pow_zero, Nat.one_mul]
  · have enough : 2 ^ 53 ≤ numerator / denominator :=
      (Nat.le_div_iff_mul_le positive).2 (Nat.le_of_not_lt short)
    have high : numerator / denominator < 2 ^ 54 := (Nat.div_lt_iff_lt_mul positive).2 most
    have digits : (numerator / denominator).log2 = 52 + 1 :=
      (Nat.log2_eq_iff (by omega)).2 ⟨enough, high⟩
    have nearest : NearestTo (digitsOf numerator denominator).shiftRightOne.roundedMantissa
        numerator (2 * denominator) := nearestTo_shiftRightOne_digitsOf positive
    have above : 2 ^ 52 * (2 * denominator) ≤ numerator := by omega
    have below : numerator < 2 ^ 53 * (2 * denominator) := by omega
    obtain ⟨full, fits⟩ := nearest.bounds (Nat.mul_pos (by decide) positive) above below
    have inRange : -1074 ≤ exponent + (1 : Nat) := by omega
    have result := roundWithAccuracy_of_log2 digits inRange rfl full fits sign
    exact ⟨1, _, by decide, nearest, full, fits, result⟩

/-! ## Numbers that count -/

/-- The number is a natural number of at most 53 binary digits, of either sign. -/
def Counts (number : Float) (count : Nat) : Prop :=
  ∃ (sign : Sign) (shift : Nat) (written : 0 < count * 2 ^ shift),
    shift ≤ 52 ∧
      2 ^ 52 ≤ count * 2 ^ shift ∧
      count * 2 ^ shift < 2 ^ 53 ∧
      number.toModel.unpack = .finite sign (count * 2 ^ shift) (-(shift : Int)) written

section Nearest

variable {count : Nat} (positive : 0 < count) (small : count < 2 ^ 53)

include positive small

theorem log2_le : count.log2 ≤ 52 :=
  Nat.lt_succ_iff.1 ((Nat.log2_lt (Nat.ne_of_gt positive)).2 small)

/-- The shift that fills the mantissa up. -/
theorem full_mantissa :
    2 ^ 52 ≤ count * 2 ^ (52 - count.log2) ∧ count * 2 ^ (52 - count.log2) < 2 ^ 53 := by
  have digits := log2_le positive small
  have low := Nat.log2_self_le (Nat.ne_of_gt positive)
  have high := @Nat.lt_log2_self count
  have places : count.log2 + (52 - count.log2) = 52 := by omega
  constructor
  · calc
      2 ^ 52 = 2 ^ count.log2 * 2 ^ (52 - count.log2) := by rw [← Nat.pow_add, places]
      _ ≤ count * 2 ^ (52 - count.log2) := Nat.mul_le_mul_right _ low
  · calc
      count * 2 ^ (52 - count.log2) < 2 ^ (count.log2 + 1) * 2 ^ (52 - count.log2) :=
        Nat.mul_lt_mul_of_pos_right high (Nat.two_pow_pos _)
      _ = 2 ^ 53 := by rw [← Nat.pow_add]; congr 1; omega

theorem nearestExponent_count : nearestExponent count 1 = -((52 - count.log2 : Nat) : Int) := by
  have digits := log2_le positive small
  obtain ⟨full, _⟩ := full_mantissa positive small
  have guess : (count.log2 : Int) - (1 : Nat).log2 - 52 = -((52 - count.log2 : Nat) : Int) := by
    have one : (1 : Nat).log2 = 0 := by decide
    omega
  have numerator : scaledNumerator count (52 - count.log2 : Nat) =
      count * 2 ^ (52 - count.log2) := rfl
  have denominator : scaledDenominator 1 (52 - count.log2 : Nat) = 1 := by
    simp [scaledDenominator]
  have long : ¬ count * 2 ^ (52 - count.log2) < Nat.pow 2 52 := Nat.not_lt.2 full
  simp only [nearestExponent, guess, Int.neg_neg, numerator, denominator, Nat.div_one,
    if_neg long]
  omega

/-- The bits of a natural number: its digits without the first, and how many they are. -/
theorem nearest_count (negative : Bool) :
    nearest negative count 1 =
      Float.ofBits (UInt64.ofNat ((1023 + count.log2) * 2 ^ 52 +
        (count * 2 ^ (52 - count.log2) - 2 ^ 52) + if negative then Nat.pow 2 63 else 0)) := by
  have digits := log2_le positive small
  obtain ⟨full, fits⟩ := full_mantissa positive small
  have numerator : scaledNumerator count (-nearestExponent count 1) =
      count * 2 ^ (52 - count.log2) := by
    rw [nearestExponent_count positive small, Int.neg_neg]
    rfl
  have denominator : scaledDenominator 1 (-nearestExponent count 1) = 1 := by
    rw [nearestExponent_count positive small, Int.neg_neg]
    simp [scaledDenominator]
  have kept : roundQuotient (count * 2 ^ (52 - count.log2)) 1 = count * 2 ^ (52 - count.log2) := by
    simp [roundQuotient, Nat.mod_one]
  have exponent : (nearestExponent count 1 + 1074).toNat = 1022 + count.log2 := by
    rw [nearestExponent_count positive small]
    omega
  have bits : min ((1022 + count.log2) * Nat.pow 2 52 + count * 2 ^ (52 - count.log2))
      (2047 * Nat.pow 2 52) =
        (1023 + count.log2) * 2 ^ 52 + (count * 2 ^ (52 - count.log2) - 2 ^ 52) := by
    simp only [Nat.pow_eq]
    omega
  simp only [nearest, numerator, denominator, kept, exponent, if_neg (Nat.ne_of_gt positive), bits]

/-- A natural number of at most 53 digits is rounded to itself. -/
theorem counts_nearest (negative : Bool) : Counts (nearest negative count 1) count := by
  have digits := log2_le positive small
  obtain ⟨full, fits⟩ := full_mantissa positive small
  have least : 0 < 1023 + count.log2 := by omega
  have greatest : 1023 + count.log2 < 2047 := by omega
  have fraction : count * 2 ^ (52 - count.log2) - 2 ^ 52 < 2 ^ 52 := by omega
  obtain ⟨sign, written, unpacked⟩ := unpack_ofBits least greatest fraction negative
  have mantissa : 2 ^ 52 + (count * 2 ^ (52 - count.log2) - 2 ^ 52) =
      count * 2 ^ (52 - count.log2) := by omega
  have place : ((1023 + count.log2 : Nat) : Int) - 1075 = -((52 - count.log2 : Nat) : Int) := by
    omega
  rw [← nearest_count positive small negative] at unpacked
  simp only [mantissa, place] at unpacked
  exact ⟨sign, 52 - count.log2, by omega, by omega, full, fits, unpacked⟩

end Nearest

/-- Full mantissas are divided with 53 further digits. -/
theorem divCore_full
    {dividend divisor left right : Nat}
    (leftDigits : dividend.log2 = 52)
    (rightDigits : divisor.log2 = 52)
    (leftShift : left ≤ 52) :
    divCore Format.binary64 dividend (-(left : Int)) divisor (-(right : Int)) =
      (dividend * 2 ^ 53 / divisor, (right : Int) - left - 53,
        accuracyOfFraction (dividend * 2 ^ 53 % divisor) divisor) := by
  have target : Format.binary64.targetExponent
      (totalExponent dividend (-(left : Int)) - totalExponent divisor (-(right : Int))) =
        (right : Int) - left - 53 := by
    show max (totalExponent dividend (-(left : Int)) - totalExponent divisor (-(right : Int)) - 53)
      (-1074) = _
    rw [totalExponent, totalExponent, leftDigits, rightDigits]
    omega
  have lower : min (-(left : Int) - -(right : Int)) ((right : Int) - left - 53) =
      (right : Int) - left - 53 := by omega
  have amount : (-(left : Int) - -(right : Int) - ((right : Int) - left - 53)).toNat = 53 := by
    omega
  simp only [divCore, target, lower, amount, Nat.shiftLeft_eq]

theorem counts_ten : Counts 10.0 10 :=
  ⟨.positive, 49, by decide, by decide, by decide, by decide, rfl⟩

theorem counts_hundred : Counts 100.0 100 :=
  ⟨.positive, 46, by decide, by decide, by decide, by decide, rfl⟩

section Division

variable
  {dividend divisor : Float}
  {leftSign rightSign : Sign}
  {count parts left right : Nat}
  {leftWritten : 0 < count * 2 ^ left}
  {rightWritten : 0 < parts * 2 ^ right}

/-- The exponent of a quotient before the digits that rounding drops. -/
def quotientExponent (left right : Nat) : Int :=
  right - left - 53

/-- What the quotient of two numbers with full mantissas stands for. -/
theorem magnitude_div
    (leftUnpacked :
      dividend.toModel.unpack = .finite leftSign (count * 2 ^ left) (-(left : Int)) leftWritten)
    (rightUnpacked :
      divisor.toModel.unpack = .finite rightSign (parts * 2 ^ right) (-(right : Int)) rightWritten)
    (leftSmall : left ≤ 52)
    (rightSmall : right ≤ 52)
    (leftFull : 2 ^ 52 ≤ count * 2 ^ left ∧ count * 2 ^ left < 2 ^ 53)
    (rightFull : 2 ^ 52 ≤ parts * 2 ^ right ∧ parts * 2 ^ right < 2 ^ 53) :
    ∃ (shift rounded : Nat) (narrowBelow : Bool),
      shift ≤ 1 ∧
        NearestTo rounded (count * 2 ^ left * 2 ^ 53) (2 ^ shift * (parts * 2 ^ right)) ∧
        rounded ≤ 2 ^ 53 ∧
        magnitude (dividend / divisor) =
          .finite (carry rounded (quotientExponent left right + shift)).1
            (carry rounded (quotientExponent left right + shift)).2 narrowBelow := by
  have leftDigits : (count * 2 ^ left).log2 = 52 := (Nat.log2_eq_iff (by omega)).2 leftFull
  have rightDigits : (parts * 2 ^ right).log2 = 52 := (Nat.log2_eq_iff (by omega)).2 rightFull
  have least : 2 ^ 52 * (parts * 2 ^ right) ≤ count * 2 ^ left * 2 ^ 53 := by omega
  have most : count * 2 ^ left * 2 ^ 53 < 2 ^ 54 * (parts * 2 ^ right) := by omega
  have range : -1074 ≤ quotientExponent left right := by
    unfold quotientExponent
    omega
  have top : quotientExponent left right ≤ -1 := by
    unfold quotientExponent
    omega
  obtain ⟨shift, rounded, shiftSmall, nearest, full, fits, written, result⟩ :=
    roundWithAccuracy_digitsOf rightWritten least most range (leftSign / rightSign)
  have quotient : (dividend / divisor).toModel =
      Float.Model.pack
        (.finite (leftSign / rightSign) (carry rounded (quotientExponent left right + shift)).1
          (carry rounded (quotientExponent left right + shift)).2 written) := by
    show Float.Model.pack (UnpackedFloat.div Format.binary64 dividend.toModel.unpack
      divisor.toModel.unpack) = _
    rw [leftUnpacked, rightUnpacked, UnpackedFloat.div,
      divCore_full leftDigits rightDigits leftSmall]
    exact congrArg Float.Model.pack result
  have unpacked : (dividend / divisor).toModel.unpack =
      .finite (leftSign / rightSign) (carry rounded (quotientExponent left right + shift)).1
        (carry rounded (quotientExponent left right + shift)).2 written := by
    obtain ⟨low, high⟩ := carry_full fits full (quotientExponent left right + shift)
    obtain ⟨lower, upper⟩ := carry_exponent rounded (quotientExponent left right + shift)
    rw [quotient]
    exact unpack_pack_normal low high (by omega) (by omega)
  obtain ⟨narrowBelow, finite⟩ := magnitude_of_unpack_finite unpacked
  exact ⟨shift, rounded, narrowBelow, shiftSmall, nearest, fits, finite⟩

/-- The quotient of two natural numbers is whole exactly when it is a natural number. -/
theorem isWhole_div_iff (counted : Counts dividend count) (divided : Counts divisor parts) :
    IsWhole (dividend / divisor) ↔ parts ∣ count := by
  obtain ⟨_, left, _, leftSmall, leftFull, leftFits, leftUnpacked⟩ := counted
  obtain ⟨_, right, rightWritten, rightSmall, rightFull, rightFits, rightUnpacked⟩ := divided
  obtain ⟨shift, rounded, narrowBelow, shiftSmall, nearest, fits, finite⟩ :=
    magnitude_div leftUnpacked rightUnpacked leftSmall rightSmall ⟨leftFull, leftFits⟩
      ⟨rightFull, rightFits⟩
  rw [IsWhole, finite]
  show Nat.pow 2 (-(carry rounded _).2).toNat ∣ (carry rounded _).1 ↔ _
  rw [dvd_carry_iff fits]
  obtain ⟨scale, places⟩ : ∃ scale : Nat, left + 53 = scale + right + shift :=
    ⟨left + 53 - right - shift, by omega⟩
  have exponent : (-(quotientExponent left right + shift)).toNat = scale := by
    unfold quotientExponent
    omega
  have positive : 0 < parts := Nat.pos_of_mul_pos_right rightWritten
  -- The mantissa of the divisor bounds it on the scale of the quotient.
  have fine : parts < 2 * 2 ^ scale := by
    refine Nat.lt_of_mul_lt_mul_right (a := 2 ^ right) ?_
    calc
      parts * 2 ^ right < 2 ^ 53 := rightFits
      _ ≤ 2 ^ (scale + right + 1) := Nat.pow_le_pow_right (by decide) (by omega)
      _ = 2 * 2 ^ scale * 2 ^ right := by rw [Nat.pow_succ, Nat.pow_add]; ring
  rw [exponent]
  exact (nearest.of_shifted places).dvd_iff positive fine

/-- Zero divided by a natural number is whole. -/
theorem isWhole_zero_div
    (zero : dividend.toModel.unpack = .zero leftSign)
    (divided : Counts divisor parts) :
    IsWhole (dividend / divisor) := by
  obtain ⟨rightSign, _, _, _, _, _, rightUnpacked⟩ := divided
  have quotient : (dividend / divisor).toModel =
      Float.Model.pack (.zero (leftSign / rightSign)) := by
    show Float.Model.pack (UnpackedFloat.div Format.binary64 dividend.toModel.unpack
      divisor.toModel.unpack) = _
    rw [zero, rightUnpacked]
    rfl
  have unpacked : (dividend / divisor).toModel.unpack = .zero (leftSign / rightSign) := by
    rw [quotient]
    cases leftSign / rightSign <;> rfl
  rw [IsWhole, magnitude_of_unpack_zero unpacked]
  exact Nat.dvd_zero _

end Division

end AtomicCss.Decimal
