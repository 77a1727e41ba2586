import AtomicCss.Proofs.Lexicon.NumericNames
import AtomicCss.Proofs.Units
import AtomicCss.Proofs.Value.Reading

/-!
Contract: what comes of a token by the unit table, and by the scaling after it, is not changed by
them again.

Owns:
- the texts that the unit table leaves as they are, quantities among them;
- that all results of the table are such texts;
- the main statement about one token that is converted twice.

Does not own: which tokens are looked up in the unit table.

## Why no row feeds another

A number that the table computes has digits after its sign, and behind them nothing or a point, or
it starts with no digit at all.  So what the table reads as the unit of a result is empty or `rem`,
or starts with a point, or is the per cent sign, or the unit that was kept because it is in no row.
None of these is in a row.
-/

namespace AtomicCss.Units

/-! ## Texts that stay as they are -/

/-- The units that the table replaces. -/
def tableUnits : List Text :=
  ["p".toList, "pxrem".toList, "div10".toList, "div100".toList]

theorem withUnit_of_not_mem {unit : Text} (kept : unit ∉ tableUnits) (number : Text) :
    withUnit number unit = number ++ unit := by
  simp only [tableUnits, List.mem_cons, List.not_mem_nil, or_false, not_or] at kept
  obtain ⟨percent, ems, tenths, hundredths⟩ := kept
  rw [withUnit, if_neg percent, if_neg ems, if_neg tenths, if_neg hundredths]

theorem convert_of_not_isNumeric {token : Text} (other : isNumeric token = false) :
    convert token = token := by
  rw [convert, if_neg (by simp [other])]

/-- A numeric token is a sign, a run of digits and a unit that does not go on with digits. -/
theorem exists_run_of_isNumeric {token : Text} (numeric : isNumeric token = true) :
    ∃ (sign : Sign) (run unit : Text), token = sign.text ++ (run ++ unit) ∧ run ≠ [] ∧
      (∀ character ∈ run, isDecimalDigit character = true) ∧ Text.EndsDigits unit := by
  obtain ⟨sign, digit, rest, decimal, rfl⟩ := isNumeric_iff.1 numeric
  refine ⟨sign, Text.digits (digit :: rest), Text.afterDigits (digit :: rest), ?_, ?_,
    fun _ => Text.isDecimalDigit_of_mem_digits, Text.endsDigits_afterDigits _⟩
  · rw [Text.digits_append_afterDigits]
  · rw [Text.digits, List.takeWhile_cons_of_pos decimal]
    exact List.cons_ne_nil _ _

/-- A number with its sign as a dash and a unit that is in no row stays as it is. -/
theorem convert_of_kept
    (sign : Sign)
    {run unit : Text}
    (written : run ≠ [])
    (decimal : ∀ character ∈ run, isDecimalDigit character = true)
    (ends : Text.EndsDigits unit)
    (kept : unit ∉ tableUnits) :
    convert (sign.minus ++ (run ++ unit)) = sign.minus ++ (run ++ unit) := by
  have stays (dashed : Sign) (dash : dashed.text = dashed.minus) :
      convert (dashed.minus ++ (run ++ unit)) = dashed.minus ++ (run ++ unit) := by
    rw [← dash, convert_run dashed written decimal ends, withUnit_of_not_mem kept, ← dash,
      List.append_assoc, ite_self]
  cases sign with
  | none => exact stays .none rfl
  | dash | letter => exact stays .dash rfl

/-! ## Quantities -/

/-- A quantity has digits after its sign, and behind them nothing or a point first, or it does not
start with a digit. -/
theorem quantity_shape (number : Float) :
    ∃ (sign : Sign) (body : Text), quantity number = sign.minus ++ body ∧
      (body = "NaN".toList ∨ body = "inf".toList ∨
        ∃ digits fraction, body = digits ++ fraction ∧ digits ≠ [] ∧
          (∀ character ∈ digits, isDecimalDigit character = true) ∧
          (fraction = [] ∨ ∃ places, fraction = '.' :: places)) := by
  by_cases zero : (number == 0.0) = true
  · refine ⟨.none, ['0'], if_pos zero, Or.inr (Or.inr ⟨['0'], [], rfl, ?_, ?_, Or.inl rfl⟩)⟩
    · exact List.cons_ne_nil _ _
    · exact List.forall_mem_singleton.2 rfl
  · obtain ⟨sign, minus⟩ := exists_minus_eq_signText number
    rw [quantity, if_neg zero]
    rcases Decimal.write_shape number with word | word | ⟨digits, fraction, text, shape⟩
    · exact ⟨.none, _, word, Or.inl rfl⟩
    · exact ⟨sign, _, word.trans (by rw [minus]), Or.inr (Or.inl rfl)⟩
    · obtain ⟨written, ascii, point⟩ := shape
      refine ⟨sign, _, text.trans (by rw [minus]), Or.inr (Or.inr ⟨digits, fraction, rfl, written,
        fun character member => isDecimalDigit_of_isDigit (ascii character member), ?_⟩)⟩
      refine point.imp_right ?_
      rintro ⟨places, same, -⟩
      exact ⟨places, same⟩

/-- A quantity stays as it is, also in front of a unit that is in no row. -/
theorem convert_quantity_append
    (number : Float)
    {unit : Text}
    (ends : Text.EndsDigits unit)
    (kept : unit ∉ tableUnits) :
    convert (quantity number ++ unit) = quantity number ++ unit := by
  obtain ⟨sign, body, text, shape⟩ := quantity_shape number
  rw [text, List.append_assoc]
  rcases shape with rfl | rfl | ⟨digits, fraction, rfl, written, decimal, point⟩
  · exact convert_of_not_isNumeric (by cases sign <;> rfl)
  · exact convert_of_not_isNumeric (by cases sign <;> rfl)
  · rw [List.append_assoc]
    rcases point with rfl | ⟨places, rfl⟩
    · exact convert_of_kept sign written decimal ends kept
    · apply convert_of_kept sign written decimal
      · rintro character ⟨⟩
        decide
      · simp [tableUnits]

/-! ## The results of the table -/

theorem convert_withUnit
    (sign : Sign)
    {run unit : Text}
    (written : run ≠ [])
    (decimal : ∀ character ∈ run, isDecimalDigit character = true)
    (ends : Text.EndsDigits unit) :
    convert (withUnit (sign.minus ++ run) unit) = withUnit (sign.minus ++ run) unit := by
  have percentEnds : Text.EndsDigits ['%'] := by
    rintro character ⟨⟩
    decide
  have emsEnds : Text.EndsDigits "rem".toList := by
    rintro character ⟨⟩
    decide
  have noneEnds : Text.EndsDigits [] := by
    rintro character ⟨⟩
  have quotient (number : Float) : convert (quantity number) = quantity number := by
    have bare := convert_quantity_append number noneEnds (by decide)
    rwa [List.append_nil] at bare
  by_cases kept : unit ∉ tableUnits
  · rw [withUnit_of_not_mem kept, List.append_assoc]
    exact convert_of_kept sign written decimal ends kept
  · rw [not_not] at kept
    simp only [tableUnits, List.mem_cons, List.not_mem_nil, or_false] at kept
    rcases kept with rfl | rfl | rfl | rfl
    · show convert (sign.minus ++ run ++ ['%']) = sign.minus ++ run ++ ['%']
      rw [List.append_assoc]
      exact convert_of_kept sign written decimal percentEnds (by decide)
    · exact convert_quantity_append _ emsEnds (by decide)
    · exact quotient _
    · exact quotient _

theorem convert_convert (token : Text) : convert (convert token) = convert token := by
  cases numeric : isNumeric token with
  | false =>
      have same := convert_of_not_isNumeric numeric
      rw [same, same]
  | true =>
      obtain ⟨sign, run, unit, rfl, written, decimal, ends⟩ := exists_run_of_isNumeric numeric
      have converted := convert_run sign written decimal ends
      by_cases broken : '\n' ∈ unit
      · rw [if_pos broken] at converted
        rw [converted, converted]
      · rw [converted, if_neg broken]
        exact convert_withUnit sign written decimal ends

theorem convert_rootEms (text : Text) : convert (rootEms text) = rootEms text := by
  apply convert_quantity_append
  · rintro character ⟨⟩
    decide
  · decide

theorem scaled_scaled (token : Text) :
    scaleToRem (convert (scaleToRem (convert token))) = scaleToRem (convert token) := by
  cases plain : isPlainInteger (convert token) with
  | false =>
      have same : scaleToRem (convert token) = convert token := scaleToRem_eq_self_iff.2 plain
      rw [same, convert_convert, same]
  | true =>
      have scaled : scaleToRem (convert token) = rootEms (convert token) := if_pos plain
      rw [scaled, convert_rootEms]
      exact scaleToRem_eq_self_iff.2 (isPlainInteger_rootEms _)

/-! ## Converted twice -/

/-- Whatever the token: the unit table changes nothing of what it gave, and neither do the table and
the scaling together.  So a token without a marker that is resolved to a text without one is
resolved to the same text a second time. -/
theorem converts_once (token : Text) :
    convert (convert token) = convert token ∧
    scaleToRem (convert (scaleToRem (convert token))) = scaleToRem (convert token) ∧
    ∀ (environment : Environment) (state : Expansion),
      environment.lexicon.markers.markerAt? none token = none →
      environment.lexicon.markers.markerAt? none (convert token) = none →
        environment.resolve (environment.resolve token state).1 state =
          environment.resolve token state := by
  refine ⟨convert_convert token, scaled_scaled token, ?_⟩
  intro environment state unmarked again
  have resolved {text : Text}
      (plain : environment.lexicon.markers.markerAt? none text = none) :
      environment.resolve text state = (convert text, state) := by
    by_cases empty : text = []
    · rw [empty, Environment.resolve, Lexicon.read, if_pos rfl]
      rfl
    · exact Environment.resolve_of_unmarked empty plain state
  rw [resolved unmarked, resolved again, convert_convert]

/-- A negative percentage, whose sign and unit both change. -/
theorem converts_once_percent :
    let environment : Environment := ⟨.empty, ⟨0, none, []⟩⟩
    convert "n5p".toList = "-5%".toList ∧
    environment.lexicon.markers.markerAt? none "n5p".toList = none ∧
    environment.lexicon.markers.markerAt? none "-5%".toList = none ∧
    ∀ state, environment.resolve (environment.resolve "n5p".toList state).1 state =
      environment.resolve "n5p".toList state := by
  intro environment
  have percent : convert "n5p".toList = "-5%".toList := by rfl
  have unmarked : environment.lexicon.markers.markerAt? none "n5p".toList = none := by rfl
  have again : environment.lexicon.markers.markerAt? none "-5%".toList = none := by rfl
  refine ⟨percent, unmarked, again, fun state => ?_⟩
  exact (converts_once "n5p".toList).2.2 environment state unmarked (percent ▸ again)

end AtomicCss.Units
