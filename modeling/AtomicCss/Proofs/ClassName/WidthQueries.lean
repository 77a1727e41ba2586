import AtomicCss.ClassName.Query
import AtomicCss.Proofs.Rules.AtRuleOrder

/-!
Contract: the at-rules of width queries are ordered by what the queries ask for.

Owns:
- the parts that ask for a width, and their reading;
- the breakpoint of the at-rule that such a part stands for;
- the order of two such at-rules.

Does not own: free queries, whose at-rules can have any text.

## Why writing and sorting stay in step

The at-rule of a width query ends with its condition, and what stands before the condition has no
opening parenthesis.  So the first condition that the sorter finds is the one that was written, and
its digits are those of the part, leading zeros included.
-/

namespace AtomicCss.Query

/-! ## Widths -/

namespace Width

/-- The width is a 64-bit word in ASCII digits.  The name, if there is one, is not empty and has
neither a line feed nor an opening parenthesis. -/
structure Regular (width : Width) : Prop where
  written : width.digits ≠ []
  ascii : ∀ character ∈ width.digits, character.isDigit = true
  word : Text.digitsValue width.digits < wordLimit
  named : ∀ name ∈ width.name, name ≠ [] ∧ '\n' ∉ name ∧ '(' ∉ name

/-- The number of pixels. -/
def pixels (width : Width) : Nat :=
  Text.digitsValue width.digits

/-- The name after a dash, if there is one. -/
def dashedName (width : Width) : Text :=
  width.name.elim [] fun name => '-' :: name

/-- What follows the digits: the mark of a greatest width, and the name. -/
def suffix (width : Width) : Text :=
  if width.isGreatest then "max".toList ++ width.dashedName else width.dashedName

/-- A query for a width as it is written after its marker. -/
def text (width : Width) : Text :=
  width.digits ++ width.suffix

theorem endsDigits_suffix (width : Width) : Text.EndsDigits width.suffix := by
  obtain ⟨digits, isGreatest, name⟩ := width
  intro character next
  cases isGreatest with
  | true =>
      cases next
      decide
  | false =>
      cases name with
      | none => cases next
      | some name =>
          cases next
          decide

/-- A name is not taken for the mark of a greatest width, as there is a dash before it. -/
theorem after?_max_suffix (width : Width) :
    Text.after? "max".toList width.suffix =
      if width.isGreatest then some width.dashedName else none := by
  obtain ⟨digits, isGreatest, name⟩ := width
  cases isGreatest with
  | true => rfl
  | false => cases name <;> rfl

namespace Regular

variable {width : Width} (regular : width.Regular)

include regular

theorem decimal : ∀ character ∈ width.digits, isDecimalDigit character = true :=
  fun character member => isDecimalDigit_of_isDigit (regular.ascii character member)

theorem nameAfterDash?_dashedName : nameAfterDash? width.dashedName = some width.name := by
  rw [dashedName]
  cases given : width.name with
  | none => rfl
  | some name =>
      obtain ⟨written, unbroken, -⟩ := regular.named name given
      exact if_pos ⟨rfl, written, unbroken⟩

/-- A query is read back. -/
theorem read?_text : Width.read? width.text = some width := by
  have digits : Text.digits width.text = width.digits :=
    Text.digits_append regular.decimal width.endsDigits_suffix
  have rest : Text.afterDigits width.text = width.suffix :=
    Text.afterDigits_append regular.decimal width.endsDigits_suffix
  have named := regular.nameAfterDash?_dashedName
  simp only [Width.read?, digits, rest, if_neg regular.written, after?_max_suffix]
  cases greatest : width.isGreatest with
  | true =>
      rw [if_pos rfl]
      simp only [named, Option.map_some]
      rw [← greatest]
  | false =>
      have bare : width.suffix = width.dashedName := by
        rw [suffix, greatest, if_neg Bool.false_ne_true]
      rw [if_neg Bool.false_ne_true]
      simp only [bare, named, Option.map_some]
      rw [← greatest]

/-- The condition has the digits, after the opening that says whether the width is a least one. -/
theorem condition_front :
    AtRule.Condition ('(' :: (if width.isGreatest then "max".toList else "min".toList) ++
      "-width:".toList) width.condition [] width.digits := by
  refine ⟨regular.written, regular.decimal, [' '], [], List.forall_mem_singleton.2 rfl, ?_⟩
  rw [condition]
  simp

theorem readsWidth_condition {opening : Text}
    (front : AtRule.Condition opening width.condition [] width.digits) :
    AtRule.ReadsWidth opening width.condition width.pixels :=
  ⟨width.digits, (AtRule.firstCondition_iff_of_front front).2 rfl, regular.ascii, rfl,
    regular.word⟩

/-- The condition of a greatest width is none for a least one. -/
theorem not_readsLeast_condition
    (greatest : width.isGreatest = true)
    (least : Nat) :
    ¬ AtRule.ReadsLeast width.condition least := by
  have closed : '(' ∉ "max-width: ".toList ++ width.digits ++ "px)".toList := by
    rw [List.mem_append, List.mem_append]
    rintro ((front | inside) | back)
    · exact absurd front (by decide)
    · exact absurd (regular.ascii _ inside) (by decide)
    · exact absurd back (by decide)
  have written : width.condition =
      '(' :: ("max-width: ".toList ++ width.digits ++ "px)".toList) := by
    rw [condition, if_pos greatest]
    rfl
  have none : AtRule.firstDigits? "(min-width:".toList
      ("max-width: ".toList ++ width.digits ++ "px)".toList) = .none :=
    AtRule.firstDigits?_eq_none closed rfl
  have elsewhere : AtRule.firstDigits? "(min-width:".toList width.condition = .none := by
    rw [written, AtRule.firstDigits?, none]
    rfl
  rw [AtRule.ReadsLeast, ← AtRule.width?_eq_some_iff, AtRule.width?, elsewhere,
    Option.bind_none]
  exact (Option.some_ne_none least).symm

/-- The sorter finds the condition. -/
theorem breakpoint_condition :
    AtRule.breakpoint width.condition =
      if width.isGreatest then .greatest width.pixels else .least width.pixels := by
  have front := regular.condition_front
  cases greatest : width.isGreatest with
  | true =>
      rw [greatest, if_pos rfl] at front
      rw [if_pos rfl, AtRule.breakpoint_eq_greatest_iff]
      exact ⟨regular.not_readsLeast_condition greatest, regular.readsWidth_condition front⟩
  | false =>
      rw [greatest, if_neg Bool.false_ne_true] at front
      rw [if_neg Bool.false_ne_true, AtRule.breakpoint_eq_least_iff]
      exact regular.readsWidth_condition front

end Regular

end Width

/-! ## Parts that ask for a width -/

/-- What a query is about.  Media come before containers. -/
inductive Subject where
  | media
  | container
deriving DecidableEq, Repr, Ord

namespace Subject

/-- The marker of a part with a query. -/
def marker : Subject → Text
  | media => Grammar.mediaQuery
  | container => Grammar.containerQuery

/-- The at-rule of a part with a query. -/
def query? : Subject → Text → Option Text
  | media => media?
  | container => container?

/-- How the at-rule begins. -/
def opening : Subject → Text
  | media => "@media ".toList
  | container => "@container ".toList

/-- What stands between a name and the condition. -/
def joint : Subject → Text
  | media => " and ".toList
  | container => " ".toList

/-- The at-rule of a query for a width, before the condition. -/
def lead (subject : Subject) (name : Option Text) : Text :=
  subject.opening ++ name.elim [] fun name => spaced name ++ subject.joint

theorem compare_kindRank (first second : Subject) (one other : Text) :
    compare (AtRule.kindRank (first.opening ++ one)) (AtRule.kindRank (second.opening ++ other)) =
      compare first second := by
  have media (rest : Text) : AtRule.kindRank (media.opening ++ rest) = 0 :=
    AtRule.kindRank_eq_zero_iff.2 ⟨' ' :: rest, rfl⟩
  have container (rest : Text) : AtRule.kindRank (container.opening ++ rest) = 1 :=
    AtRule.kindRank_eq_one_iff.2 ⟨' ' :: rest, rfl⟩
  cases first <;> cases second <;> simp only [media, container] <;> rfl

end Subject

theorem not_mem_spaced {tokens : Text} (absent : '(' ∉ tokens) : '(' ∉ spaced tokens := by
  rw [spaced, Text.substitute, List.mem_map]
  rintro ⟨character, member, same⟩
  split at same
  · cases same
  · exact absent (same ▸ member)

/-- A part that asks for a width. -/
structure WidthPart where
  subject : Subject
  width : Width
  regular : width.Regular

namespace WidthPart

variable (part : WidthPart)

/-- The part as it is written. -/
def text : Text :=
  part.subject.marker ++ part.width.text

/-- The at-rule that the part stands for. -/
def atRule : Text :=
  part.subject.lead part.width.name ++ part.width.condition

theorem query?_text : part.subject.query? part.text = some part.atRule := by
  obtain ⟨subject, width, regular⟩ := part
  have read := regular.read?_text
  cases subject with
  | media =>
      show media? (Grammar.mediaQuery ++ width.text) = _
      rw [media?, Text.after?_append, Option.bind_some, read]
      obtain ⟨digits, isGreatest, name⟩ := width
      cases name <;> rfl
  | container =>
      show container? (Grammar.containerQuery ++ width.text) = _
      rw [container?, Text.after?_append, Option.bind_some, read]
      obtain ⟨digits, isGreatest, name⟩ := width
      cases name with
      | none => rfl
      | some name => exact congrArg some (List.append_cons _ _ _)

theorem not_mem_lead : '(' ∉ part.subject.lead part.width.name := by
  have plain := part.regular.named
  have opening : '(' ∉ part.subject.opening := by cases part.subject <;> decide
  have joint : '(' ∉ part.subject.joint := by cases part.subject <;> decide
  rw [Subject.lead, List.mem_append, not_or]
  refine ⟨opening, ?_⟩
  cases name : part.width.name with
  | none => exact List.not_mem_nil
  | some given =>
      rw [Option.elim_some, List.mem_append, not_or]
      exact ⟨not_mem_spaced (plain given name).2.2, joint⟩

theorem breakpoint_atRule :
    AtRule.breakpoint part.atRule =
      if part.width.isGreatest then .greatest part.width.pixels else .least part.width.pixels := by
  rw [atRule, AtRule.breakpoint_append part.not_mem_lead, part.regular.breakpoint_condition]

/-! ## Order -/

theorem compare_kindRank (first second : WidthPart) :
    compare (AtRule.kindRank first.atRule) (AtRule.kindRank second.atRule) =
      compare first.subject second.subject := by
  rw [atRule, atRule, Subject.lead, Subject.lead, List.append_assoc, List.append_assoc,
    Subject.compare_kindRank]

theorem compare_rank (first second : WidthPart) :
    compare (AtRule.breakpoint first.atRule).rank (AtRule.breakpoint second.atRule).rank =
      compare first.width.isGreatest second.width.isGreatest := by
  rw [breakpoint_atRule, breakpoint_atRule]
  cases first.width.isGreatest <;> cases second.width.isGreatest <;> rfl

theorem pixels_atRule : (AtRule.breakpoint part.atRule).pixels = part.width.pixels := by
  rw [breakpoint_atRule]
  cases part.width.isGreatest <;> rfl

/-- Two parts that ask for widths stand for at-rules, and these are ordered by what the queries are
about, then least widths before greatest ones, then by the number of pixels, and by their texts only
if all three agree. -/
theorem order_atRules (first second : WidthPart) :
    ∃ one other,
      first.subject.query? first.text = some one ∧
      second.subject.query? second.text = some other ∧
      AtRule.order one other =
        (compare first.subject second.subject).then
          ((compare first.width.isGreatest second.width.isGreatest).then
            ((compare first.width.pixels second.width.pixels).then (compare one other))) := by
  refine ⟨first.atRule, second.atRule, first.query?_text, second.query?_text, ?_⟩
  rw [AtRule.order_eq_then, compare_kindRank, compare_rank, pixels_atRule, pixels_atRule]

/-- The narrow width comes first, although its text does not. -/
theorem order_atRules_narrow :
    ∃ one other,
      media? "mq096-only_screen".toList = some one ∧
      media? "mq1024".toList = some other ∧
      AtRule.order one other = .lt ∧ compare one other = .gt := by
  have narrow : (Width.mk "096".toList false (some "only_screen".toList)).Regular :=
    ⟨by decide, List.all_eq_true.1 rfl, by decide, by decide⟩
  have wide : (Width.mk "1024".toList false none).Regular :=
    ⟨by decide, List.all_eq_true.1 rfl, by decide, by decide⟩
  obtain ⟨one, other, first, second, ordered⟩ := order_atRules ⟨.media, _, narrow⟩ ⟨.media, _, wide⟩
  refine ⟨one, other, first, second, ordered.trans rfl, ?_⟩
  have one_eq : media? "mq096-only_screen".toList =
      some "@media only screen and (min-width: 096px)".toList := by decide
  have other_eq : media? "mq1024".toList = some "@media (min-width: 1024px)".toList := by decide
  obtain rfl := Option.some.inj (first.symm.trans one_eq)
  obtain rfl := Option.some.inj (second.symm.trans other_eq)
  decide

end WidthPart

end AtomicCss.Query
