import AtomicCss.Lexicon.Basic
import AtomicCss.Proofs.Lexicon.Longest
import AtomicCss.Proofs.OrderedMap
import AtomicCss.Proofs.Units

/-!
Contract: looking up a name with a number written right after it does not depend on the order in
which a table is gone through.

Owns:
- the texts that start with a number;
- the names of a table that a part can be read with, and that the longest of them is found;
- that abbreviations, and the properties that are the only one of some abbreviation, are found
  alike in whatever order the abbreviations come.

Does not own: what a part declares for the properties and the number.

## Why ties do no harm

A table of abbreviations has every name once.  A property can be the only one of several
abbreviations, but what is found is the property and the number after it, and both are the same
for all of them.
-/

namespace AtomicCss

/-! ## Numbers -/

/-- A text starts with a number: a sign or none, and a decimal digit of some script. -/
def Units.StartsNumber (text : Text) : Prop :=
  ∃ (sign : Sign) (digit : Char) (rest : Text),
    isDecimalDigit digit = true ∧ text = sign.text ++ digit :: rest

theorem Units.isNumeric_iff {text : Text} : isNumeric text = true ↔ StartsNumber text := by
  constructor
  · intro numeric
    cases text with
    | nil => cases numeric
    | cons first rest =>
        rw [isNumeric] at numeric
        split at numeric
        · rename_i signed
          cases rest with
          | nil => cases numeric
          | cons digit rest =>
              rcases signed with rfl | rfl
              · exact ⟨.dash, digit, rest, numeric, rfl⟩
              · exact ⟨.letter, digit, rest, numeric, rfl⟩
        · exact ⟨.none, first, rest, numeric, rfl⟩
  · rintro ⟨sign, digit, rest, decimal, rfl⟩
    exact isNumeric_run sign (List.cons_ne_nil digit []) (List.forall_mem_singleton.2 decimal) rest

theorem Units.StartsNumber.ne_nil {text : Text} (starts : StartsNumber text) : text ≠ [] := by
  obtain ⟨sign, digit, rest, -, rfl⟩ := starts
  exact List.append_ne_nil_of_right_ne_nil _ (List.cons_ne_nil digit rest)

namespace Lexicon

/-- A part is a name and a number right after it. -/
def NumberAfter (part name : Text) : Prop :=
  ∃ number, part = name ++ number ∧ Units.StartsNumber number

theorem numericRest?_eq_some_iff {name part number : Text} :
    numericRest? name part = some number ↔
      part = name ++ number ∧ Units.StartsNumber number := by
  rw [numericRest?, Option.filter_eq_some_iff, Text.after?_eq_some_iff, Bool.and_eq_true,
    Units.isNumeric_iff]
  refine and_congr_right fun _ => and_iff_right_of_imp fun starts => ?_
  rw [Bool.not_eq_true', List.isEmpty_eq_false_iff]
  exact starts.ne_nil

/-! ## Tables -/

section Tables

variable {α : Type} {table : List (Text × α)} {part : Text}

theorem mem_numericMatches {found : NumericMatch α} :
    found ∈ numericMatches table part ↔
      (found.name, found.meaning) ∈ table ∧
        part = found.name ++ found.rest ∧ Units.StartsNumber found.rest := by
  rw [numericMatches, List.mem_filterMap]
  constructor
  · rintro ⟨⟨name, meaning⟩, member, matched⟩
    obtain ⟨number, rest, rfl⟩ := Option.map_eq_some_iff.1 matched
    exact ⟨member, numericRest?_eq_some_iff.1 rest⟩
  · rintro ⟨member, written⟩
    refine ⟨(found.name, found.meaning), member, ?_⟩
    rw [numericRest?_eq_some_iff.2 written]
    rfl

/-- A name of a table that a part can be read with. -/
def Fits (table : List (Text × α)) (part name : Text) : Prop :=
  (∃ meaning, (name, meaning) ∈ table) ∧ NumberAfter part name

theorem exists_match_iff {name : Text} :
    (∃ found ∈ numericMatches table part, found.name = name) ↔ Fits table part name := by
  constructor
  · rintro ⟨found, member, rfl⟩
    obtain ⟨bound, written⟩ := mem_numericMatches.1 member
    exact ⟨⟨found.meaning, bound⟩, found.rest, written⟩
  · rintro ⟨⟨meaning, bound⟩, number, written⟩
    exact ⟨⟨name, meaning, number⟩, mem_numericMatches.2 ⟨bound, written⟩, rfl⟩

theorem longestNumeric?_eq_none_iff :
    longestNumeric? table part = none ↔
      Grammar.valueSeparator ∈ part ∨ ∀ name, ¬ Fits table part name := by
  simp only [← exists_match_iff]
  rw [longestNumeric?]
  split
  · rename_i separated
    exact iff_of_true rfl (.inl (List.contains_iff_mem.1 separated))
  · rename_i whole
    rw [List.contains_iff_mem] at whole
    rw [longest?_eq_none_iff_no_text, or_iff_right whole]

/-- In a table in which a name has one meaning the longest name that fits is found. -/
theorem longestNumeric?_eq_some_iff
    (single : ∀ name one other, (name, one) ∈ table → (name, other) ∈ table → one = other)
    {found : NumericMatch α} :
    longestNumeric? table part = some found ↔
      Grammar.valueSeparator ∉ part ∧ IsLongest (Fits table part) found.name ∧
        (found.name, found.meaning) ∈ table ∧ part = found.name ++ found.rest := by
  have starts : ∀ found ∈ numericMatches table part, found.name <+: part := by
    intro found member
    exact ⟨found.rest, (mem_numericMatches.1 member).2.1.symm⟩
  have apart : ∀ one ∈ numericMatches table part, ∀ other ∈ numericMatches table part,
      one.name = other.name → one = other := by
    rintro ⟨name, one, oneRest⟩ left ⟨_, other, otherRest⟩ right rfl
    obtain ⟨leftBound, leftWritten, -⟩ := mem_numericMatches.1 left
    obtain ⟨rightBound, rightWritten, -⟩ := mem_numericMatches.1 right
    have meaning : one = other := single name one other leftBound rightBound
    have rest : oneRest = otherRest :=
      List.append_cancel_left (leftWritten.symm.trans rightWritten)
    rw [meaning, rest]
  rw [longestNumeric?]
  split
  · rename_i separated
    rw [List.contains_iff_mem] at separated
    exact iff_of_false (by simp) fun whole => whole.1 separated
  · rename_i whole
    rw [List.contains_iff_mem] at whole
    rw [longest?_eq_some_iff starts apart, and_iff_right whole]
    simp only [exists_match_iff]
    constructor
    · rintro ⟨member, longest⟩
      obtain ⟨bound, written, -⟩ := mem_numericMatches.1 member
      exact ⟨longest, bound, written⟩
    · rintro ⟨longest, bound, written⟩
      obtain ⟨-, number, again, numeric⟩ := longest.of_kind
      rw [← List.append_cancel_left (written.symm.trans again)] at numeric
      exact ⟨mem_numericMatches.2 ⟨bound, written, numeric⟩, longest⟩

end Tables

/-! ## Abbreviations and properties -/

variable {lexicon : Lexicon} {part : Text}

/-- An abbreviation that a part can be read with. -/
def FitsAlias (lexicon : Lexicon) (part name : Text) : Prop :=
  (∃ properties, lexicon.aliases.get? name = some properties) ∧ NumberAfter part name

/-- A property that is the only one of some abbreviation, and that a part can be read with. -/
def FitsProperty (lexicon : Lexicon) (part property : Text) : Prop :=
  (∃ name, lexicon.aliases.get? name = some [property]) ∧ NumberAfter part property

theorem mem_soleProperties {property : Text} {mark : Unit} :
    (property, mark) ∈ lexicon.soleProperties ↔
      ∃ name, lexicon.aliases.get? name = some [property] := by
  simp only [OrderedMap.get?_eq_some_iff]
  rw [soleProperties, List.mem_filterMap]
  constructor
  · rintro ⟨properties, member, sole⟩
    obtain ⟨⟨name, _⟩, bound, rfl⟩ := List.mem_map.1 member
    split at sole
    · rename_i only single
      cases sole
      have same : _ = [property] := single
      exact ⟨name, same ▸ bound⟩
    · cases sole
  · rintro ⟨name, bound⟩
    exact ⟨[property], List.mem_map.2 ⟨(name, [property]), bound, rfl⟩, rfl⟩

theorem fits_aliases : Fits lexicon.aliases.entries part = FitsAlias lexicon part := by
  funext name
  simp only [Fits, FitsAlias, OrderedMap.get?_eq_some_iff]

theorem fits_soleProperties : Fits lexicon.soleProperties part = FitsProperty lexicon part := by
  funext property
  simp only [Fits, FitsProperty, mem_soleProperties, exists_const]

theorem aliasShorthand?_eq_some_iff {properties : List Text} {number : Text} :
    lexicon.aliasShorthand? part = some (properties, number) ↔
      Grammar.valueSeparator ∉ part ∧
        ∃ name, IsLongest (FitsAlias lexicon part) name ∧
          lexicon.aliases.get? name = some properties ∧ part = name ++ number := by
  have single : ∀ name one other, (name, one) ∈ lexicon.aliases.entries →
      (name, other) ∈ lexicon.aliases.entries → one = other := by
    intro name one other left right
    rw [← OrderedMap.get?_eq_some_iff] at left right
    rw [left] at right
    exact Option.some.inj right
  rw [aliasShorthand?, Option.map_eq_some_iff]
  simp only [longestNumeric?_eq_some_iff single, fits_aliases, OrderedMap.get?_eq_some_iff]
  constructor
  · rintro ⟨found, ⟨whole, longest, bound, written⟩, same⟩
    cases same
    exact ⟨whole, found.name, longest, bound, written⟩
  · rintro ⟨whole, name, longest, bound, written⟩
    exact ⟨⟨name, properties, number⟩, ⟨whole, longest, bound, written⟩, rfl⟩

theorem propertyShorthand?_eq_some_iff {property number : Text} :
    lexicon.propertyShorthand? part = some (property, number) ↔
      Grammar.valueSeparator ∉ part ∧ IsLongest (FitsProperty lexicon part) property ∧
        part = property ++ number := by
  have single : ∀ name one other, (name, one) ∈ lexicon.soleProperties →
      (name, other) ∈ lexicon.soleProperties → one = other := fun _ _ _ _ _ => rfl
  rw [propertyShorthand?, Option.map_eq_some_iff]
  simp only [longestNumeric?_eq_some_iff single, fits_soleProperties]
  constructor
  · rintro ⟨found, ⟨whole, longest, -, written⟩, same⟩
    cases same
    exact ⟨whole, longest, written⟩
  · rintro ⟨whole, longest, written⟩
    have bound : (property, ()) ∈ lexicon.soleProperties :=
      mem_soleProperties.2 longest.of_kind.1
    exact ⟨⟨property, (), number⟩, ⟨whole, longest, bound, written⟩, rfl⟩

/-- Lexicons that have the same abbreviations read a part alike. -/
theorem shorthands_eq_of_get?
    {other : Lexicon}
    (bound : ∀ name, other.aliases.get? name = lexicon.aliases.get? name) :
    other.aliasShorthand? part = lexicon.aliasShorthand? part ∧
      other.propertyShorthand? part = lexicon.propertyShorthand? part := by
  have aliases : FitsAlias other part = FitsAlias lexicon part := by
    funext name
    simp only [FitsAlias, bound]
  have properties : FitsProperty other part = FitsProperty lexicon part := by
    funext property
    simp only [FitsProperty, bound]
  constructor
  · apply Option.ext
    rintro ⟨found, number⟩
    rw [aliasShorthand?_eq_some_iff, aliasShorthand?_eq_some_iff, aliases]
    simp only [bound]
  · apply Option.ext
    rintro ⟨found, number⟩
    rw [propertyShorthand?_eq_some_iff, propertyShorthand?_eq_some_iff, properties]

/-- A part is read with the longest abbreviation, or the longest property that is the only one of
some abbreviation, that it starts with and has a number right after, and with that number.  It is
not read at all exactly when it has a separator or there is no such name.  The order of the
abbreviations makes no difference. -/
theorem shorthand_of_longest (lexicon : Lexicon) (part : Text) :
    (∀ properties number,
      lexicon.aliasShorthand? part = some (properties, number) ↔
        Grammar.valueSeparator ∉ part ∧
          ∃ name, IsLongest (FitsAlias lexicon part) name ∧
            lexicon.aliases.get? name = some properties ∧ part = name ++ number) ∧
    (lexicon.aliasShorthand? part = none ↔
      Grammar.valueSeparator ∈ part ∨ ∀ name, ¬ FitsAlias lexicon part name) ∧
    (∀ property number,
      lexicon.propertyShorthand? part = some (property, number) ↔
        Grammar.valueSeparator ∉ part ∧ IsLongest (FitsProperty lexicon part) property ∧
          part = property ++ number) ∧
    (lexicon.propertyShorthand? part = none ↔
      Grammar.valueSeparator ∈ part ∨ ∀ property, ¬ FitsProperty lexicon part property) ∧
    ∀ other : Lexicon, other.aliases.entries.Perm lexicon.aliases.entries →
      other.aliasShorthand? part = lexicon.aliasShorthand? part ∧
        other.propertyShorthand? part = lexicon.propertyShorthand? part := by
  refine ⟨fun _ _ => aliasShorthand?_eq_some_iff, ?_, fun _ _ => propertyShorthand?_eq_some_iff,
    ?_, ?_⟩
  · rw [aliasShorthand?, Option.map_eq_none_iff, longestNumeric?_eq_none_iff]
    simp only [fits_aliases]
  · rw [propertyShorthand?, Option.map_eq_none_iff, longestNumeric?_eq_none_iff]
    simp only [fits_soleProperties]
  · intro other same
    exact shorthands_eq_of_get? (OrderedMap.get?_eq_of_perm same)

/-- Three abbreviations of which two stand for one property, in two orders. -/
theorem shorthand_of_longest_margin :
    let lexicon := ((empty.addAlias "m".toList ["margin".toList]).addAlias "mt".toList
      ["margin-top".toList]).addAlias "top".toList ["margin-top".toList]
    let other := ((empty.addAlias "top".toList ["margin-top".toList]).addAlias "m".toList
      ["margin".toList]).addAlias "mt".toList ["margin-top".toList]
    other.aliases.entries.Perm lexicon.aliases.entries ∧
    other.aliasShorthand? "mtn5".toList = lexicon.aliasShorthand? "mtn5".toList ∧
    lexicon.aliasShorthand? "mtn5".toList = some (["margin-top".toList], "n5".toList) ∧
    other.propertyShorthand? "margin-top-8px".toList =
      lexicon.propertyShorthand? "margin-top-8px".toList ∧
    lexicon.propertyShorthand? "margin-top-8px".toList =
      some ("margin-top".toList, "-8px".toList) := by
  intro lexicon other
  have same : other.aliases.entries.Perm lexicon.aliases.entries := by decide
  obtain ⟨-, -, -, -, aliases⟩ := shorthand_of_longest lexicon "mtn5".toList
  obtain ⟨-, -, -, -, properties⟩ := shorthand_of_longest lexicon "margin-top-8px".toList
  exact ⟨same, (aliases other same).1, by decide, (properties other same).2, by decide⟩

end Lexicon

end AtomicCss
