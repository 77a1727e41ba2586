import AtomicCss.Proofs.Text.Digits
import AtomicCss.Proofs.Text.Splitting
import AtomicCss.Rules.AtRuleOrder

/-!
Contract: the width of an at-rule is the one in its first width condition.

Owns:
- the places of a text where a width condition stands;
- that the search finds the first of them, and what is read from it;
- which at-rules have a least and which a greatest width.

Does not own: the comparison of at-rules.

## Why the first condition is one condition

What stands at a place is determined by the text from there on: the blanks end before the digits,
as no digit is blank, and the digits end before the `p`.  So a place has one condition at most,
and looking at one place after the other finds the first one.
-/

namespace AtomicCss.AtRule

/-! ## Places -/

/-- A width condition stands in a text after the text before it: the opening, any blanks, decimal
digits of any script, at least one, and the end. -/
structure Condition (opening text before digits : Text) : Prop where
  written : digits ≠ []
  decimal : ∀ character ∈ digits, isDecimalDigit character = true
  stands :
    ∃ blanks after, (∀ character ∈ blanks, isBlank character = true) ∧
      text = before ++ (opening ++ (blanks ++ (digits ++ ("px)".toList ++ after))))

theorem endsDigits_px (after : Text) : Text.EndsDigits ("px)".toList ++ after) := by
  rintro character next
  cases next
  decide

/-- Digits in front of other text have no blanks before them. -/
theorem trimStart_digits_append
    {blanks digits : Text}
    (blank : ∀ character ∈ blanks, isBlank character = true)
    (written : digits ≠ [])
    (decimal : ∀ character ∈ digits, isDecimalDigit character = true)
    (rest : Text) :
    Text.trimStart (blanks ++ (digits ++ rest)) = digits ++ rest := by
  obtain ⟨first, others, rfl⟩ := List.exists_cons_of_ne_nil written
  have solid := isBlank_of_isDecimalDigit (decimal first List.mem_cons_self)
  rw [Text.trimStart, List.dropWhile_append_of_pos blank, List.cons_append,
    List.dropWhile_cons_of_neg (by simp [solid])]

/-- What is read at the front of a text is the condition that stands there. -/
theorem conditionDigits?_eq_some_iff {opening text digits : Text} :
    conditionDigits? opening text = some digits ↔ Condition opening text [] digits := by
  constructor
  · intro read
    obtain ⟨rest, cut, found⟩ := Option.bind_eq_some_iff.1 read
    obtain rfl := Text.after?_eq_some_iff.1 cut
    dsimp only at found
    split at found
    · rename_i condition
      obtain rfl := Option.some.inj found
      rw [Bool.and_eq_true, decide_eq_true_eq, Text.startsWith_iff_prefix] at condition
      obtain ⟨written, after, ends⟩ := condition
      have parts := Text.digits_append_afterDigits (Text.trimStart rest)
      rw [← ends] at parts
      refine ⟨written, fun _ => Text.isDecimalDigit_of_mem_digits,
        rest.takeWhile isBlank, after, fun _ => List.mem_takeWhile_imp, ?_⟩
      rw [parts, List.nil_append, Text.trimStart, List.takeWhile_append_dropWhile]
    · cases found
  · rintro ⟨written, decimal, blanks, after, blank, rfl⟩
    rw [conditionDigits?, List.nil_append, Text.after?_append, Option.bind_some]
    simp only [trimStart_digits_append blank written decimal,
      Text.digits_append decimal (endsDigits_px after),
      Text.afterDigits_append decimal (endsDigits_px after)]
    refine if_pos ?_
    rw [Bool.and_eq_true, decide_eq_true_eq, Text.startsWith_iff_prefix]
    exact ⟨written, List.prefix_append _ _⟩

theorem Condition.eq_of_nil
    {opening text digits other : Text}
    (condition : Condition opening text [] digits)
    (again : Condition opening text [] other) :
    digits = other := by
  rw [← conditionDigits?_eq_some_iff] at condition again
  rw [condition] at again
  exact Option.some.inj again

theorem condition_cons_iff
    {opening rest before digits : Text}
    {character first : Char} :
    Condition opening (character :: rest) (first :: before) digits ↔
      first = character ∧ Condition opening rest before digits := by
  constructor
  · rintro ⟨written, decimal, blanks, after, blank, same⟩
    rw [List.cons_append, List.cons.injEq] at same
    obtain ⟨rfl, rfl⟩ := same
    exact ⟨rfl, written, decimal, blanks, after, blank, rfl⟩
  · rintro ⟨rfl, written, decimal, blanks, after, blank, rfl⟩
    exact ⟨written, decimal, blanks, after, blank, rfl⟩

theorem not_condition_nil {opening before digits : Text} :
    ¬ Condition opening [] before digits := by
  rintro ⟨-, -, blanks, after, -, none⟩
  have size := congrArg List.length none
  simp at size

/-! ## The first condition -/

/-- The first width condition of a text has the digits. -/
def FirstCondition (opening text digits : Text) : Prop :=
  ∃ before, Condition opening text before digits ∧
    ∀ earlier other, Condition opening text earlier other → before.length ≤ earlier.length

/-- A condition at the front is the first. -/
theorem firstCondition_iff_of_front
    {opening text digits found : Text}
    (front : Condition opening text [] found) :
    FirstCondition opening text digits ↔ found = digits := by
  constructor
  · rintro ⟨before, condition, least⟩
    have start := least [] found front
    obtain rfl := List.length_eq_zero_iff.1 (Nat.le_zero.1 start)
    exact front.eq_of_nil condition
  · rintro rfl
    exact ⟨[], front, fun _ _ _ => Nat.zero_le _⟩

/-- Without one at the front it is the first of the rest. -/
theorem firstCondition_cons_iff
    {opening rest digits : Text}
    {character : Char}
    (elsewhere : ∀ other, ¬ Condition opening (character :: rest) [] other) :
    FirstCondition opening (character :: rest) digits ↔ FirstCondition opening rest digits := by
  constructor
  · rintro ⟨before, condition, least⟩
    cases before with
    | nil => exact absurd condition (elsewhere digits)
    | cons first before =>
        refine ⟨before, (condition_cons_iff.1 condition).2, fun earlier other again => ?_⟩
        have bound := least (character :: earlier) other (condition_cons_iff.2 ⟨rfl, again⟩)
        simpa using bound
  · rintro ⟨before, condition, least⟩
    refine ⟨character :: before, condition_cons_iff.2 ⟨rfl, condition⟩, ?_⟩
    intro earlier other again
    cases earlier with
    | nil => exact absurd again (elsewhere other)
    | cons first earlier =>
        have bound := least earlier other (condition_cons_iff.1 again).2
        simpa using bound

/-- By induction on the text, as the search looks at the front first and then at the rest. -/
theorem firstDigits?_eq_some_iff {opening text digits : Text} :
    firstDigits? opening text = some digits ↔ FirstCondition opening text digits := by
  induction text with
  | nil =>
      refine iff_of_false (by simp [firstDigits?]) ?_
      rintro ⟨before, condition, -⟩
      exact not_condition_nil condition
  | cons character rest inductionHypothesis =>
      rw [firstDigits?]
      cases front : conditionDigits? opening (character :: rest) with
      | some found =>
          rw [firstCondition_iff_of_front (conditionDigits?_eq_some_iff.1 front), Option.some_or,
            Option.some_inj]
      | none =>
          have elsewhere (other : Text) : ¬ Condition opening (character :: rest) [] other := by
            rw [← conditionDigits?_eq_some_iff, front]
            exact (Option.some_ne_none other).symm
          rw [firstCondition_cons_iff elsewhere, Option.none_or, inductionHypothesis]

/-! ## Widths -/

/-- The first condition of a text has ASCII digits only, and they write a 64-bit word. -/
def ReadsWidth (opening text : Text) (pixels : Nat) : Prop :=
  ∃ digits, FirstCondition opening text digits ∧
    (∀ character ∈ digits, character.isDigit = true) ∧ Text.digitsValue digits = pixels ∧
      pixels < wordLimit

theorem width?_eq_some_iff {opening text : Text} {pixels : Nat} :
    width? opening text = some pixels ↔ ReadsWidth opening text pixels := by
  rw [width?, Option.bind_eq_some_iff]
  simp only [firstDigits?_eq_some_iff, Text.toNatBelow?_eq_some_iff]
  refine exists_congr fun digits => and_congr_right fun first => ?_
  obtain ⟨_, condition, -⟩ := first
  exact and_iff_right condition.written

/-- The at-rule applies from a width on. -/
def ReadsLeast (atRule : Text) (pixels : Nat) : Prop :=
  ReadsWidth "(min-width:".toList atRule pixels

/-- The at-rule applies up to a width, and not from a width on. -/
def ReadsGreatest (atRule : Text) (pixels : Nat) : Prop :=
  (∀ least, ¬ ReadsLeast atRule least) ∧ ReadsWidth "(max-width:".toList atRule pixels

theorem breakpoint_eq_least_iff {atRule : Text} {pixels : Nat} :
    breakpoint atRule = .least pixels ↔ ReadsLeast atRule pixels := by
  rw [ReadsLeast, ← width?_eq_some_iff, breakpoint]
  cases width? "(min-width:".toList atRule with
  | some least => simp
  | none => cases width? "(max-width:".toList atRule <;> simp

theorem breakpoint_eq_greatest_iff {atRule : Text} {pixels : Nat} :
    breakpoint atRule = .greatest pixels ↔ ReadsGreatest atRule pixels := by
  simp only [ReadsGreatest, ReadsLeast, ← width?_eq_some_iff]
  rw [breakpoint]
  cases width? "(min-width:".toList atRule with
  | some least => simp
  | none => cases width? "(max-width:".toList atRule <;> simp

theorem rank_breakpoint_eq_zero_iff {atRule : Text} :
    (breakpoint atRule).rank = 0 ↔ ∃ pixels, ReadsLeast atRule pixels := by
  simp only [← breakpoint_eq_least_iff]
  cases breakpoint atRule <;> simp [Breakpoint.rank]

theorem rank_breakpoint_eq_one_iff {atRule : Text} :
    (breakpoint atRule).rank = 1 ↔ ∃ pixels, ReadsGreatest atRule pixels := by
  simp only [← breakpoint_eq_greatest_iff]
  cases breakpoint atRule <;> simp [Breakpoint.rank]

/-! ## Conditions after other text -/

section Lead

variable {lead : Text} (absent : '(' ∉ lead)

include absent

/-- No condition begins in a text without an opening parenthesis. -/
theorem firstDigits?_append {opening : Text} (starts : opening.head? = some '(') (rest : Text) :
    firstDigits? opening (lead ++ rest) = firstDigits? opening rest := by
  obtain ⟨opening, rfl⟩ := List.head?_eq_some_iff.1 starts
  induction lead with
  | nil => rfl
  | cons character lead inductionHypothesis =>
      rw [List.mem_cons, not_or] at absent
      have elsewhere : conditionDigits? ('(' :: opening) (character :: (lead ++ rest)) = none := by
        simp [conditionDigits?, Text.after?, absent.1]
      rw [List.cons_append, firstDigits?, elsewhere, Option.none_or,
        inductionHypothesis absent.2]

theorem firstDigits?_eq_none {opening : Text} (starts : opening.head? = some '(') :
    firstDigits? opening lead = none := by
  have none := firstDigits?_append absent starts []
  rwa [List.append_nil] at none

theorem breakpoint_append (rest : Text) : breakpoint (lead ++ rest) = breakpoint rest := by
  simp only [breakpoint, width?]
  rw [firstDigits?_append absent rfl, firstDigits?_append absent rfl]

end Lead

end AtomicCss.AtRule
