import AtomicCss.Proofs.ClassName.Form
import AtomicCss.Proofs.Units
import AtomicCss.Proofs.Value.Reading

/-!
Contract: parts that write a number right after the name of a property.

Owns:
- the properties and the number of such a part;
- the values of numbers under the default markers;
- what such a part declares.

Does not own: the unit table, and the texts that are scaled.
-/

namespace AtomicCss

/-! ## The values of numbers -/

/-- A character that numbers do not start with. -/
def Registry.opensNoNumber (character : Char) : Bool :=
  character ≠ '-' && character ≠ 'n' && !isDecimalDigit character

theorem Units.opensNoNumber_of_isNumeric
    {first : Char}
    {rest : Text}
    (numeric : isNumeric (first :: rest) = true) :
    Registry.opensNoNumber first = false := by
  rw [isNumeric] at numeric
  split at numeric
  · rename_i sign
    rcases sign with rfl | rfl <;> rfl
  · simp [Registry.opensNoNumber, numeric]

namespace Registry

theorem heads_standard :
    ∀ marker ∈ standard.bindings.keys, marker.head?.any opensNoNumber = true := by
  decide

/-- No default marker starts a number. -/
theorem markerAt?_standard_of_isNumeric
    {token : Text}
    (numeric : Units.isNumeric token = true)
    (excluded : Option MarkerKind) :
    standard.markerAt? excluded token = none := by
  rw [markerAt?, longest?_eq_none_iff, candidates, List.filter_eq_nil_iff]
  intro entry member
  have head := heads_standard entry.1 (List.mem_map_of_mem member)
  have apart : Text.startsWith entry.1 token = false := by
    rw [Bool.eq_false_iff, Ne, Text.startsWith_iff_prefix]
    rintro ⟨rest, rfl⟩
    cases marker : entry.1 with
    | nil =>
        rw [marker] at head
        cases head
    | cons first others =>
        rw [marker] at head numeric
        have opens : opensNoNumber first = true := head
        rw [Units.opensNoNumber_of_isNumeric numeric] at opens
        cases opens
  simp [apart]

end Registry

/-- Under the default markers a number is resolved by the unit table. -/
theorem Environment.resolve_of_isNumeric
    {environment : Environment}
    (default : environment.lexicon.markers = Registry.standard)
    {token : Text}
    (numeric : Units.isNumeric token = true)
    (state : Expansion) :
    environment.resolve token state = (Units.convert token, state) := by
  have written : token ≠ [] := by
    rintro rfl
    cases numeric
  have unmarked : environment.lexicon.markers.markerAt? none token = none := by
    rw [default]
    exact Registry.markerAt?_standard_of_isNumeric numeric none
  exact resolve_of_unmarked written unmarked state

/-! ## Shorthand parts -/

/-- The properties that a part names by an abbreviation or in full, and the number that it writes
right after the name. -/
def Lexicon.shorthand? (lexicon : Lexicon) (part : Text) : Option (List Text × Text) :=
  (lexicon.aliasShorthand? part).or
    ((lexicon.propertyShorthand? part).map fun found => ([found.1], found.2))

namespace ClassName

variable {environment : Environment} {part : Text} {properties : List Text}

theorem applyDeclaration_of_shorthand
    {number : Text}
    (shorthand : environment.lexicon.shorthand? part = some (properties, number))
    (progress : Progress) :
    applyDeclaration environment part progress =
      applyNumeric environment properties number progress := by
  unfold applyDeclaration
  rw [Lexicon.shorthand?] at shorthand
  cases abbreviated : environment.lexicon.aliasShorthand? part with
  | some found =>
      rw [abbreviated, Option.some_or] at shorthand
      cases shorthand
      rfl
  | none =>
      rw [abbreviated, Option.none_or] at shorthand
      cases full : environment.lexicon.propertyShorthand? part with
      | none =>
          rw [full] at shorthand
          cases shorthand
      | some found =>
          rw [full] at shorthand
          cases shorthand
          rfl

/-- Under the default markers a shorthand part declares what the unit table makes of its number,
scaled if that is a bare integer. -/
theorem applyPart_of_shorthand
    (default : environment.lexicon.markers = Registry.standard)
    (form : formOf environment.lexicon part = .simple .declaration)
    {number : Text}
    (numeric : Units.isNumeric number = true)
    (shorthand : environment.lexicon.shorthand? part = some (properties, number))
    (levels : Nat)
    (progress : Progress) :
    applyPart environment levels part progress =
      progress.update fun contribution =>
        contribution.declare
          (properties.map fun property =>
            declaration property (Units.scaleToRem (Units.convert number))) := by
  rw [applyPart_eq, form]
  show applyDeclaration environment part progress = _
  rw [applyDeclaration_of_shorthand shorthand, applyNumeric,
    Environment.resolve_of_isNumeric default numeric]
  rfl

/-- Such a part declares the result of the unit table if the number has a suffix, unless the
suffix divides the number evenly.  Then, and without a suffix, the part declares root ems. -/
theorem applyPart_numeric
    (default : environment.lexicon.markers = Registry.standard)
    (form : formOf environment.lexicon part = .simple .declaration)
    {token : Units.NumericToken}
    (shorthand : environment.lexicon.shorthand? part = some (properties, token.text)) :
    (∀ (levels : Nat) (progress : Progress),
      applyPart environment levels part progress =
        progress.update fun contribution =>
          contribution.declare
            (properties.map fun property => declaration property token.scaled)) ∧
      (token.suffix = [] → token.scaled = Units.rootEms token.number) ∧
      (token.suffix ≠ [] →
        Units.convert token.text =
            (if '\n' ∈ token.unit then token.text
              else Units.withUnit token.number token.unit) ∧
          (token.scaled = Units.convert token.text ↔ ¬ token.DividesEvenly) ∧
          (token.DividesEvenly → token.scaled = Units.rootEms (Units.convert token.text))) ∧
      (Text.digits token.suffix = [] →
        Text.digitsValue token.digits < 2 ^ 53 →
          (token.DividesEvenly ↔
            (token.suffix = "div10".toList ∧ 10 ∣ Text.digitsValue token.digits) ∨
              (token.suffix = "div100".toList ∧ 100 ∣ Text.digitsValue token.digits))) := by
  refine ⟨?_, token.scaled_of_bare, ?_, token.dividesEvenly_iff⟩
  · intro levels progress
    exact applyPart_of_shorthand default form token.isNumeric_text shorthand levels progress
  · intro suffixed
    exact ⟨token.convert_text, token.scaled_eq_convert_iff suffixed,
      token.scaled_of_dividesEvenly suffixed⟩

/-- An environment with an abbreviation for the height of lines. -/
def lines : Environment :=
  ⟨Lexicon.empty.addAlias "lh".toList ["line-height".toList], ⟨0, none, []⟩⟩

namespace Lines

/-- A number of tenths. -/
def tenths (digits : Text) (written : digits.head?.any Char.isDigit = true)
    (ascii : digits.all Char.isDigit = true) : Units.NumericToken :=
  ⟨.none, digits, "div10".toList, written, ascii, by decide⟩

end Lines

/-- Fifteen tenths are declared without a unit. -/
theorem applyPart_fifteenTenths :
    (applyPart lines 10 "lh15div10".toList Palette.start).contribution.declarations =
      ["line-height: 1.5".toList] := by
  let token := Lines.tenths "15".toList (by decide) (by decide)
  have shorthand : lines.lexicon.shorthand? "lh15div10".toList =
      some (["line-height".toList], token.text) := by rfl
  have form : formOf lines.lexicon "lh15div10".toList = .simple .declaration := by rfl
  obtain ⟨declared, _, suffixed, small⟩ := applyPart_numeric (by rfl) form shorthand
  obtain ⟨_, kept, _⟩ := suffixed (by decide)
  have uneven : ¬ token.DividesEvenly := by
    rw [small (by decide) (by decide)]
    decide
  have converted : Units.convert token.text = "1.5".toList := by decide
  rw [declared, kept.2 uneven, converted]
  rfl

/-- Twenty tenths are two by the unit table, but are declared as two pixels. -/
theorem twentyTenths_declared :
    Units.convert "20div10".toList = "2".toList ∧
      (contribution? lines 10 "cssf--lh20div10".toList).map Contribution.declarations =
        some ["line-height: 0.125rem".toList] := by
  have converted : Units.convert "20div10".toList = "2".toList := by decide
  have scaled : Units.scaleToRem "2".toList = "0.125rem".toList := by decide
  have cut : partsOf "cssf--lh20div10".toList = .ok ["lh20div10".toList] := by rfl
  have shorthand : lines.lexicon.shorthand? "lh20div10".toList =
      some (["line-height".toList], "20div10".toList) := by rfl
  have form : formOf lines.lexicon "lh20div10".toList = .simple .declaration := by rfl
  have added (levels : Nat) (progress : Progress) :
      applyPart lines levels "lh20div10".toList progress =
        progress.update fun contribution =>
          contribution.declare ["line-height: 0.125rem".toList] := by
    rw [applyPart_of_shorthand (by rfl) form (by decide) shorthand, converted, scaled]
    rfl
  refine ⟨converted, ?_⟩
  rw [contribution?_of_partsOf cut, progressOf_of_not_mem (by decide)]
  simp only [applyParts, List.foldl_cons, List.foldl_nil, added]
  rfl

end ClassName

end AtomicCss
