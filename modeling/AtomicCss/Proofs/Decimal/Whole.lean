import AtomicCss.Decimal.Shortest
import AtomicCss.Proofs.Decimal.Parts
import Mathlib.Tactic.Ring

/-!
Contract: the numbers whose shortest decimal has no fraction.

Owns:
- whole numbers, by their binary value;
- decimals without a fraction, and which of them read back as a number;
- the place that the search for the shortest decimal starts and ends at;
- the characters of the text of a number, which has no point exactly when the number is whole.

Does not own: how a number comes about.

## Why the binary value decides

A decimal without a fraction that rounds to `mantissa * 2 ^ exponent` is that number when the
exponent is negative, for the numbers next to each other are then less than one apart.  The other
way round, a whole number reads back on the place of its units, and the search, which starts at
the leading digit and goes down, comes to that place before it ends.
-/

namespace AtomicCss.Decimal

/-! ## Whole numbers -/

/-- The value has no fraction. -/
def Magnitude.IsWhole : Magnitude → Prop
  | .finite mantissa exponent _ => Nat.pow 2 (-exponent).toNat ∣ mantissa
  | .infinite | .notANumber => False

instance : DecidablePred Magnitude.IsWhole
  | .finite mantissa exponent _ =>
      inferInstanceAs (Decidable (Nat.pow 2 (-exponent).toNat ∣ mantissa))
  | .infinite | .notANumber => inferInstanceAs (Decidable False)

/-- The number is finite and has no fraction. -/
def IsWhole (number : Float) : Prop :=
  (magnitude number).IsWhole

instance : DecidablePred IsWhole := fun number =>
  inferInstanceAs (Decidable (magnitude number).IsWhole)

/-- The mantissa of a finite number has at most 53 binary digits. -/
theorem mantissa_lt_of_magnitude
    {number : Float}
    {mantissa : Nat}
    {exponent : Int}
    {narrowBelow : Bool}
    (finite : magnitude number = .finite mantissa exponent narrowBelow) :
    mantissa < Nat.pow 2 53 := by
  have fraction : number.toBits.toNat % Nat.pow 2 63 % Nat.pow 2 52 < Nat.pow 2 52 :=
    Nat.mod_lt _ (by decide)
  unfold magnitude at finite
  simp only at finite
  split at finite
  · cases finite
    exact Nat.lt_trans fraction (by decide)
  · split at finite <;> cases finite
  · cases finite
    simp only [Nat.pow_eq] at fraction ⊢
    omega

/-! ## Decimals without a fraction -/

/-- The digits of a decimal end with enough zeros to take up its places after the point. -/
def Scaled.IsWhole (decimal : Scaled) : Prop :=
  Nat.pow 10 (-decimal.exponent).toNat ∣ decimal.digits

/-- Moving zeros into the exponent takes up places after the point and none before it. -/
theorem Scaled.strip_eq (fuel : Nat) (decimal : Scaled) :
    ∃ zeros : Nat,
      (decimal.strip fuel).exponent = decimal.exponent + zeros ∧
        decimal.digits = (decimal.strip fuel).digits * Nat.pow 10 zeros := by
  induction fuel generalizing decimal with
  | zero => exact ⟨0, by simp [strip]⟩
  | succ fuel inductionHypothesis =>
      rw [strip]
      split
      · rename_i ends
        let shorter : Scaled := ⟨decimal.digits / 10, decimal.exponent + 1⟩
        obtain ⟨zeros, exponent, digits⟩ := inductionHypothesis shorter
        have placed : (shorter.strip fuel).exponent = decimal.exponent + (zeros + 1 : Nat) := by
          rw [exponent, Int.natCast_add, Int.add_comm (zeros : Int) _, ← Int.add_assoc]
          rfl
        have kept : decimal.digits / 10 = (shorter.strip fuel).digits * Nat.pow 10 zeros := digits
        refine ⟨zeros + 1, placed, ?_⟩
        calc
          decimal.digits = decimal.digits / 10 * 10 := by omega
          _ = (shorter.strip fuel).digits * Nat.pow 10 zeros * 10 := by rw [kept]
          _ = (shorter.strip fuel).digits * Nat.pow 10 (zeros + 1) := Nat.mul_assoc _ _ _
      · exact ⟨0, by simp⟩

theorem Scaled.isWhole_of_strip
    {fuel : Nat}
    {decimal : Scaled}
    (placed : 0 ≤ (decimal.strip fuel).exponent) :
    decimal.IsWhole := by
  obtain ⟨zeros, exponent, digits⟩ := decimal.strip_eq fuel
  have enough : (-decimal.exponent).toNat ≤ zeros := by omega
  rw [IsWhole, digits]
  exact Nat.dvd_mul_left_of_dvd (Nat.pow_dvd_pow 10 enough) _

/-! ## What reads back -/

section Compare

variable {decimal : Scaled} {count : Nat} {exponent : Int}

theorem Scaled.le_of_compareBinary_ne_lt (other : decimal.compareBinary count exponent ≠ .lt) :
    count * Nat.pow 2 exponent.toNat * Nat.pow 10 (-decimal.exponent).toNat ≤
      decimal.digits * Nat.pow 10 decimal.exponent.toNat * Nat.pow 2 (-exponent).toNat := by
  rw [compareBinary, Ne, Nat.compare_eq_lt] at other
  exact Nat.le_of_not_lt other

theorem Scaled.le_of_compareBinary_ne_gt (other : decimal.compareBinary count exponent ≠ .gt) :
    decimal.digits * Nat.pow 10 decimal.exponent.toNat * Nat.pow 2 (-exponent).toNat ≤
      count * Nat.pow 2 exponent.toNat * Nat.pow 10 (-decimal.exponent).toNat := by
  rw [compareBinary, Ne, Nat.compare_eq_gt] at other
  exact Nat.le_of_not_lt other

end Compare

/-- What reads back as a number lies within half of the distance to the next numbers. -/
theorem Scaled.bounds_of_readsBack
    {decimal : Scaled}
    {mantissa : Nat}
    {exponent : Int}
    {narrowBelow : Bool}
    (readsBack : decimal.readsBack mantissa exponent narrowBelow = true) :
    let value :=
      decimal.digits * Nat.pow 10 decimal.exponent.toNat * Nat.pow 2 (-(exponent - 2)).toNat
    let scale := Nat.pow 2 (exponent - 2).toNat * Nat.pow 10 (-decimal.exponent).toNat
    (4 * mantissa - 2) * scale ≤ value ∧ value ≤ (4 * mantissa + 2) * scale := by
  intro value scale
  simp only [Scaled.readsBack, Bool.and_eq_true, Bool.or_eq_true, decide_eq_true_eq] at readsBack
  obtain ⟨fromLow, fromHigh⟩ := readsBack
  constructor
  · let low := if narrowBelow then 4 * mantissa - 1 else 4 * mantissa - 2
    have least : 4 * mantissa - 2 ≤ low := by
      simp only [low]
      split <;> omega
    have other : decimal.compareBinary low (exponent - 2) ≠ .lt := by
      rcases fromLow with greater | ⟨_, equal⟩
      · rw [greater]
        decide
      · rw [equal]
        decide
    have bound := le_of_compareBinary_ne_lt other
    rw [Nat.mul_assoc] at bound
    exact Nat.le_trans (Nat.mul_le_mul_right scale least) bound
  · have other : decimal.compareBinary (4 * mantissa + 2) (exponent - 2) ≠ .gt := by
      rcases fromHigh with less | ⟨_, equal⟩
      · rw [less]
        decide
      · rw [equal]
        decide
    have bound := le_of_compareBinary_ne_gt other
    rw [Nat.mul_assoc (4 * mantissa + 2)] at bound
    exact bound

/-- A decimal without a fraction that reads back as `mantissa * 2 ^ exponent` is that number, or
the exponent is not negative. -/
theorem dvd_of_readsBack
    {decimal : Scaled}
    {mantissa : Nat}
    {exponent : Int}
    {narrowBelow : Bool}
    (whole : decimal.IsWhole)
    (readsBack : decimal.readsBack mantissa exponent narrowBelow = true) :
    Nat.pow 2 (-exponent).toNat ∣ mantissa := by
  by_cases fractional : exponent < 0
  · -- The numbers are `2 ^ exponent` apart, so a quarter of that is the unit here.
    obtain ⟨count, digits⟩ := whole
    let value := count * Nat.pow 10 decimal.exponent.toNat
    let scale := Nat.pow 10 (-decimal.exponent).toNat
    have positive : 0 < scale := Nat.pow_pos (by decide)
    have quarters : (-(exponent - 2)).toNat = (-exponent).toNat + 2 := by omega
    have none : (exponent - 2).toNat = 0 := by omega
    have exact : decimal.digits * Nat.pow 10 decimal.exponent.toNat *
        Nat.pow 2 (-(exponent - 2)).toNat =
          4 * (value * Nat.pow 2 (-exponent).toNat) * scale := by
      simp only [digits, quarters, Nat.pow_eq, Nat.pow_add, value, scale]
      ring
    obtain ⟨above, below⟩ := Scaled.bounds_of_readsBack readsBack
    have unit : Nat.pow 2 0 * Nat.pow 10 (-decimal.exponent).toNat = scale := Nat.one_mul scale
    rw [none, exact, unit] at above below
    have least := Nat.le_of_mul_le_mul_right above positive
    have most := Nat.le_of_mul_le_mul_right below positive
    have equal : mantissa = Nat.pow 2 (-exponent).toNat * value := by
      rw [Nat.mul_comm]
      omega
    exact ⟨value, equal⟩
  · have small : (-exponent).toNat = 0 := by omega
    rw [small]
    exact Nat.one_dvd mantissa

section Units

variable
  {mantissa : Nat}
  {exponent : Int}
  (whole : Nat.pow 2 (-exponent).toNat ∣ mantissa)

include whole

/-- On the place of the units nothing is cut off from a whole number. -/
theorem floorAt_zero_mul :
    floorAt mantissa exponent 0 * Nat.pow 2 (-exponent).toNat =
      mantissa * Nat.pow 2 exponent.toNat := by
  have cut : floorAt mantissa exponent 0 =
      mantissa * Nat.pow 2 exponent.toNat / Nat.pow 2 (-exponent).toNat := by
    simp [floorAt]
  rw [cut, Nat.div_mul_cancel (Nat.dvd_mul_right_of_dvd whole _)]

theorem floorAt_zero_mul_four :
    floorAt mantissa exponent 0 * Nat.pow 2 (-(exponent - 2)).toNat =
      4 * mantissa * Nat.pow 2 (exponent - 2).toNat := by
  have units := floorAt_zero_mul whole
  simp only [Nat.pow_eq] at units ⊢
  by_cases fractional : exponent ≤ 0
  · have quarters : (-(exponent - 2)).toNat = (-exponent).toNat + 2 := by omega
    have none : (exponent - 2).toNat = 0 := by omega
    have small : exponent.toNat = 0 := by omega
    rw [small] at units
    rw [quarters, none, Nat.pow_add, ← Nat.mul_assoc, units]
    ring
  · have small : (-exponent).toNat = 0 := by omega
    rw [small, Nat.pow_zero, Nat.mul_one] at units
    rw [units]
    by_cases one : exponent = 1
    · subst one
      show mantissa * 2 ^ 1 * 2 ^ 1 = 4 * mantissa * 2 ^ 0
      ring
    · have none : (-(exponent - 2)).toNat = 0 := by omega
      have quarters : exponent.toNat = (exponent - 2).toNat + 2 := by omega
      rw [none, quarters, Nat.pow_add]
      ring

theorem readsBack_floorAt_zero (positive : 0 < mantissa) (narrowBelow : Bool) :
    Scaled.readsBack ⟨floorAt mantissa exponent 0, 0⟩ mantissa exponent narrowBelow = true := by
  have scale : 0 < Nat.pow 2 (exponent - 2).toNat := Nat.pow_pos (by decide)
  have compared (count : Nat) :
      Scaled.compareBinary ⟨floorAt mantissa exponent 0, 0⟩ count (exponent - 2) =
        compare (4 * mantissa * Nat.pow 2 (exponent - 2).toNat)
          (count * Nat.pow 2 (exponent - 2).toNat) := by
    rw [← floorAt_zero_mul_four whole]
    simp [Scaled.compareBinary]
  let low := if narrowBelow then 4 * mantissa - 1 else 4 * mantissa - 2
  have below : low < 4 * mantissa := by
    simp only [low]
    split <;> omega
  have fromLow : Scaled.compareBinary ⟨floorAt mantissa exponent 0, 0⟩ low (exponent - 2) =
      .gt := by
    rw [compared, Nat.compare_eq_gt]
    exact Nat.mul_lt_mul_of_pos_right below scale
  have fromHigh : Scaled.compareBinary ⟨floorAt mantissa exponent 0, 0⟩ (4 * mantissa + 2)
      (exponent - 2) = .lt := by
    rw [compared, Nat.compare_eq_lt]
    exact Nat.mul_lt_mul_of_pos_right (by omega) scale
  simp only [low] at fromLow
  simp [Scaled.readsBack, fromLow, fromHigh]

theorem middle_above :
    Scaled.compareBinary
        ⟨5 * (floorAt mantissa exponent 0 + (floorAt mantissa exponent 0 + 1)), -1⟩
        mantissa exponent = .gt := by
  have units := floorAt_zero_mul whole
  have scale : 0 < Nat.pow 2 (-exponent).toNat := Nat.pow_pos (by decide)
  rw [Scaled.compareBinary, Nat.compare_eq_gt, ← units]
  show floorAt mantissa exponent 0 * Nat.pow 2 (-exponent).toNat * 10 <
    5 * (floorAt mantissa exponent 0 + (floorAt mantissa exponent 0 + 1)) * 1 *
      Nat.pow 2 (-exponent).toNat
  rw [Nat.mul_right_comm]
  exact Nat.mul_lt_mul_of_pos_right (by omega) scale

/-- So the search stops at that place at the latest. -/
theorem atPlace?_zero (positive : 0 < mantissa) (narrowBelow : Bool) :
    atPlace? mantissa exponent narrowBelow 0 =
      some ⟨floorAt mantissa exponent 0, 0⟩ := by
  have middle := middle_above whole
  simp [atPlace?, readsBack_floorAt_zero whole positive, middle]

theorem leadingPlace_nonneg (positive : 0 < mantissa) : 0 ≤ leadingPlace mantissa exponent := by
  have written : mantissa ≠ 0 := Nat.ne_of_gt positive
  have digits : (-exponent).toNat ≤ mantissa.log2 :=
    (Nat.le_log2 written).2 (Nat.le_of_dvd positive whole)
  have units : 0 < floorAt mantissa exponent 0 := by
    have scaled := floorAt_zero_mul whole
    have value : 0 < mantissa * Nat.pow 2 exponent.toNat :=
      Nat.mul_pos positive (Nat.pow_pos (by decide))
    rw [← scaled] at value
    exact Nat.pos_of_mul_pos_right value
  unfold leadingPlace
  simp only
  split
  · omega
  · split
    · omega
    · rename_i none
      have other : ((mantissa.log2 : Int) + exponent) * 30103 / 100000 ≠ 0 := by
        intro zero
        rw [zero] at none
        exact none units
      omega

end Units

/-- A number with an exponent below zero has at most sixteen digits before the point. -/
theorem leadingPlace_le
    {mantissa : Nat}
    {exponent : Int}
    (small : mantissa < Nat.pow 2 53)
    (fractional : exponent < 0) :
    leadingPlace mantissa exponent ≤ 16 := by
  have digits : mantissa.log2 ≤ 52 := by
    by_cases zero : mantissa = 0
    · subst zero
      decide
    · exact Nat.lt_succ_iff.1 ((Nat.log2_lt zero).2 small)
  unfold leadingPlace
  simp only
  split
  · omega
  · split <;> omega

/-! ## The shortest decimal -/

theorem exponent_of_atPlace?
    {mantissa : Nat}
    {exponent place : Int}
    {narrowBelow : Bool}
    {decimal : Scaled}
    (found : atPlace? mantissa exponent narrowBelow place = some decimal) :
    decimal.exponent = place ∧ decimal.readsBack mantissa exponent narrowBelow = true := by
  simp only [atPlace?] at found
  split at found
  · rename_i fits
    cases found
    rw [Bool.and_eq_true] at fits
    exact ⟨rfl, fits.1⟩
  · split at found
    · rename_i fits
      cases found
      exact ⟨rfl, fits⟩
    · cases found

/-- The search ends on a place of at most seventeen from the leading digit on, and before it none
had a decimal. -/
theorem findSome?_range
    {search : Nat → Option Scaled}
    {limit : Nat}
    {decimal : Scaled}
    (found : (List.range limit).findSome? search = some decimal) :
    ∃ count < limit, search count = some decimal ∧ ∀ earlier < count, search earlier = none := by
  induction limit with
  | zero => cases found
  | succ limit inductionHypothesis =>
      rw [List.range_succ, List.findSome?_append] at found
      cases before : (List.range limit).findSome? search with
      | some earlier =>
          rw [before, Option.some_or] at found
          obtain ⟨count, inside, here, none⟩ := inductionHypothesis (before.trans found)
          exact ⟨count, Nat.lt_succ_of_lt inside, here, none⟩
      | none =>
          rw [before, Option.none_or] at found
          have here : search limit = some decimal := by simpa using found
          exact ⟨limit, Nat.lt_succ_self limit, here, fun earlier less =>
            List.findSome?_eq_none_iff.1 before earlier (List.mem_range.2 less)⟩

/-- The shortest decimal of a positive number has no place after the point exactly when the
number is whole. -/
theorem exponent_shortest_nonneg_iff
    {mantissa : Nat}
    {exponent : Int}
    (positive : 0 < mantissa)
    (small : mantissa < Nat.pow 2 53)
    (narrowBelow : Bool) :
    0 ≤ (shortest mantissa exponent narrowBelow).exponent ↔
      Nat.pow 2 (-exponent).toNat ∣ mantissa := by
  have units (whole : Nat.pow 2 (-exponent).toNat ∣ mantissa) :
      atPlace? mantissa exponent narrowBelow
          (leadingPlace mantissa exponent - (leadingPlace mantissa exponent).toNat) =
        some ⟨floorAt mantissa exponent 0, 0⟩ := by
    rw [Int.toNat_of_nonneg (leadingPlace_nonneg whole positive), Int.sub_self]
    exact atPlace?_zero whole positive narrowBelow
  unfold shortest
  simp only
  split
  · rename_i decimal found
    obtain ⟨count, _, place, earlier⟩ := findSome?_range found
    obtain ⟨placed, readsBack⟩ := exponent_of_atPlace? place
    constructor
    · intro stripped
      exact dvd_of_readsBack (Scaled.isWhole_of_strip stripped) readsBack
    · intro whole
      -- The place of the units has a decimal, so the search did not go past it.
      have reached : ¬ (leadingPlace mantissa exponent).toNat < count := by
        intro passed
        have none := earlier _ passed
        rw [units whole] at none
        cases none
      obtain ⟨zeros, moved, _⟩ := decimal.strip_eq 20
      have leading := leadingPlace_nonneg whole positive
      omega
  · rename_i none
    simp only
    constructor
    · intro nonnegative
      have small : (-exponent).toNat = 0 := by omega
      rw [small]
      exact Nat.one_dvd mantissa
    · intro whole
      -- Below zero the place of the units is one of the seventeen, and has a decimal.
      have nonnegative : ¬ exponent < 0 := by
        intro fractional
        have leading := leadingPlace_le small fractional
        have inside : (leadingPlace mantissa exponent).toNat ∈ List.range 17 :=
          List.mem_range.2 (by omega)
        have missed := List.findSome?_eq_none_iff.1 none _ inside
        rw [units whole] at missed
        cases missed
      omega

/-! ## The text of a number -/

theorem Scaled.positional_of_nonneg {decimal : Scaled} (placed : 0 ≤ decimal.exponent) :
    decimal.positional ≠ [] ∧ ∀ character ∈ decimal.positional, character.isDigit = true := by
  rw [positional, if_pos placed]
  constructor
  · exact List.append_ne_nil_of_left_ne_nil Nat.toDigits_ne_nil _
  · intro character member
    rcases List.mem_append.1 member with digit | zero
    · exact Nat.isDigit_of_mem_toDigits (by decide) (by decide) digit
    · rw [(List.mem_replicate.1 zero).2]
      rfl

/-- A decimal with places after the point has digits on both sides of it, at least one before. -/
theorem Scaled.positional_of_neg {decimal : Scaled} (fraction : decimal.exponent < 0) :
    ∃ whole places, decimal.positional = whole ++ '.' :: places ∧ whole ≠ [] ∧
      (∀ character ∈ whole, character.isDigit = true) ∧
      ∀ character ∈ places, character.isDigit = true := by
  let count := (-decimal.exponent).toNat
  let digits := Text.ofNat decimal.digits
  let padded := List.replicate (count + 1 - digits.length) '0' ++ digits
  have ascii : ∀ character ∈ padded, character.isDigit = true := by
    intro character member
    rcases List.mem_append.1 member with zero | digit
    · rw [(List.mem_replicate.1 zero).2]
      rfl
    · exact Nat.isDigit_of_mem_toDigits (by decide) (by decide) digit
  have long : count < padded.length := by
    rw [List.length_append, List.length_replicate]
    omega
  refine ⟨padded.take (padded.length - count), padded.drop (padded.length - count), ?_, ?_,
    fun character member => ascii character (List.mem_of_mem_take member),
    fun character member => ascii character (List.mem_of_mem_drop member)⟩
  · rw [positional, if_neg (by omega)]
  · intro none
    have length := congrArg List.length none
    rw [List.length_take, List.length_nil] at length
    omega

theorem Scaled.point_mem_positional {decimal : Scaled} (fraction : decimal.exponent < 0) :
    '.' ∈ decimal.positional := by
  obtain ⟨whole, places, text, _⟩ := positional_of_neg fraction
  rw [text]
  exact List.mem_append_right _ List.mem_cons_self

theorem Scaled.of_mem_positional
    {decimal : Scaled}
    {character : Char}
    (member : character ∈ decimal.positional) :
    character.isDigit = true ∨ character = '.' := by
  by_cases placed : 0 ≤ decimal.exponent
  · exact Or.inl ((positional_of_nonneg placed).2 character member)
  · obtain ⟨whole, places, text, _, front, back⟩ := positional_of_neg (Int.not_le.1 placed)
    rw [text, List.mem_append, List.mem_cons] at member
    rcases member with digit | point | digit
    · exact Or.inl (front character digit)
    · exact Or.inr point
    · exact Or.inl (back character digit)

/-- The characters that numbers are written with: digits, the sign, the point, and the letters of
those that are not finite. -/
def IsNumeral (character : Char) : Prop :=
  character.isDigit = true ∨ character ∈ ['-', '.', 'i', 'n', 'f', 'N', 'a']

instance : DecidablePred IsNumeral := fun character =>
  inferInstanceAs (Decidable (character.isDigit = true ∨ _))

theorem isNumeral_of_mem_write {number : Float} :
    ∀ character ∈ write number, IsNumeral character := by
  have signed {rest : Text} (numerals : ∀ character ∈ rest, IsNumeral character) :
      ∀ character ∈ (if isNegative number then ['-'] else []) ++ rest, IsNumeral character := by
    intro character member
    rcases List.mem_append.1 member with dash | later
    · split at dash
      · exact Or.inr (by simp [List.mem_singleton.1 dash])
      · cases dash
    · exact numerals character later
  unfold write
  simp only
  split
  · exact fun character letter => Or.inr ((by decide : "NaN".toList ⊆ _) letter)
  · exact signed fun character letter => Or.inr ((by decide : "inf".toList ⊆ _) letter)
  · exact signed fun character zero => Or.inl (List.mem_singleton.1 zero ▸ rfl)
  · refine signed fun character member => ?_
    rcases Scaled.of_mem_positional member with digit | point
    · exact Or.inl digit
    · exact Or.inr (by simp [point])

/-- The sign of a number in its text. -/
def signText (number : Float) : Text :=
  if isNegative number then ['-'] else []

/-- The text of a number that is no finite one is a word, and that of any other has digits after the
sign, and behind them nothing or a point and further digits. -/
theorem write_shape (number : Float) :
    write number = "NaN".toList ∨ write number = signText number ++ "inf".toList ∨
      ∃ digits fraction, write number = signText number ++ (digits ++ fraction) ∧ digits ≠ [] ∧
        (∀ character ∈ digits, character.isDigit = true) ∧
        (fraction = [] ∨ ∃ places, fraction = '.' :: places ∧
          ∀ character ∈ places, character.isDigit = true) := by
  unfold write
  simp only
  split
  · exact Or.inl rfl
  · exact Or.inr (Or.inl rfl)
  · refine Or.inr (Or.inr ⟨['0'], [], rfl, List.cons_ne_nil _ _, ?_, Or.inl rfl⟩)
    exact List.forall_mem_singleton.2 rfl
  · rename_i mantissa exponent narrowBelow _ _
    refine Or.inr (Or.inr ?_)
    by_cases placed : 0 ≤ (shortest mantissa exponent narrowBelow).exponent
    · obtain ⟨written, digits⟩ := Scaled.positional_of_nonneg placed
      exact ⟨_, [], by rw [List.append_nil]; rfl, written, digits, Or.inl rfl⟩
    · obtain ⟨whole, places, text, written, front, back⟩ :=
        Scaled.positional_of_neg (Int.not_le.1 placed)
      exact ⟨whole, '.' :: places, by rw [text]; rfl, written, front, Or.inr ⟨places, rfl, back⟩⟩

/-- After the sign, the text of a whole number has digits and nothing else. -/
theorem write_of_isWhole {number : Float} (whole : IsWhole number) :
    ∃ digits, write number = signText number ++ digits ∧ digits ≠ [] ∧
      ∀ character ∈ digits, character.isDigit = true := by
  unfold IsWhole at whole
  unfold write
  simp only
  split
  · rename_i other
    rw [other] at whole
    cases whole
  · rename_i other
    rw [other] at whole
    cases whole
  · refine ⟨['0'], rfl, List.cons_ne_nil _ _, ?_⟩
    intro character member
    obtain rfl := List.mem_singleton.1 member
    rfl
  · rename_i mantissa exponent narrowBelow nonzero finite
    rw [finite] at whole
    have positive : 0 < mantissa := Nat.pos_of_ne_zero nonzero
    have placed := (exponent_shortest_nonneg_iff positive
      (mantissa_lt_of_magnitude finite) narrowBelow).2 whole
    exact ⟨_, rfl, Scaled.positional_of_nonneg placed⟩

/-- The text of any other number has a point or a letter in it. -/
theorem write_of_not_isWhole {number : Float} (fraction : ¬ IsWhole number) :
    ∃ character ∈ write number, character ≠ '-' ∧ character.isDigit = false := by
  unfold IsWhole at fraction
  unfold write
  simp only
  split
  · exact ⟨'N', by decide, by decide, by decide⟩
  · exact ⟨'i', List.mem_append_right _ (by decide), by decide, by decide⟩
  · rename_i exponent narrowBelow finite
    rw [finite] at fraction
    exact absurd (Nat.dvd_zero _) fraction
  · rename_i mantissa exponent narrowBelow nonzero finite
    rw [finite] at fraction
    have positive : 0 < mantissa := Nat.pos_of_ne_zero nonzero
    have placed := mt (exponent_shortest_nonneg_iff positive
      (mantissa_lt_of_magnitude finite) narrowBelow).1 fraction
    exact ⟨'.', List.mem_append_right _ (Scaled.point_mem_positional (by omega)), by decide,
      by decide⟩

/-! ## Zero -/

open Float.Model in
/-- What equals zero is a zero, of either sign. -/
theorem unpack_of_beq_zero {number : Float} (zero : (number == 0.0) = true) :
    ∃ sign, number.toModel.unpack = .zero sign := by
  have equal : number.toModel.unpack.beq (.zero .positive) = true := zero
  cases unpacked : number.toModel.unpack with
  | zero sign => exact ⟨sign, rfl⟩
  | notANumber =>
      rw [unpacked] at equal
      cases equal
  | infinity sign =>
      rw [unpacked] at equal
      cases sign <;> cases equal
  | finite sign mantissa exponent positive =>
      rw [unpacked] at equal
      cases sign <;> cases equal

theorem isWhole_of_beq_zero {number : Float} (zero : (number == 0.0) = true) :
    IsWhole number := by
  obtain ⟨sign, unpacked⟩ := unpack_of_beq_zero zero
  rw [IsWhole, magnitude_of_unpack_zero unpacked]
  exact Nat.dvd_zero _

end AtomicCss.Decimal
