import AtomicCss.Proofs.ClassName.Stages

/-!
Contract: what the parts of a class name change in its contribution.

Owns:
- the changes that a part can make, each to one field of a contribution;
- that a part which does not stand for others makes one change, to the field of its kind;
- what every part keeps, templates included.

Does not own: the values that are declared, and the order of parts.

## Why the change comes before the contribution

A part reads the state of the expansion.  Of the contribution it reads at most the class name,
which no part changes.  So the change that it makes is settled before the contribution is known,
and what holds of all changes holds of all parts.
-/

namespace AtomicCss

/-! ## Fields -/

namespace Contribution

/-- The fields of a contribution that parts change. -/
inductive Field where
  | selector
  | declarations
  | atRule
  | important
  | keyframes
  | fontFace
  | rootRules
deriving DecidableEq, Repr

/-- Two contributions differ in one field at most. -/
def AgreesBut (field : Field) (before after : Contribution) : Prop :=
  match field with
  | .selector => after = { before with selector := after.selector }
  | .declarations => after = { before with declarations := after.declarations }
  | .atRule => after = { before with atRule := after.atRule }
  | .important => after = { before with important := after.important }
  | .keyframes => after = { before with keyframes := after.keyframes }
  | .fontFace => after = { before with fontFace := after.fontFace }
  | .rootRules => after = { before with rootRules := after.rootRules }

/-- What a contribution keeps while parts are added to it: its class name, all that it declares,
which stays in front, and that its importance is turned off. -/
structure Grows (before after : Contribution) : Prop where
  className : after.className = before.className
  declarations : before.declarations <+: after.declarations
  rootRules : before.rootRules <+: after.rootRules
  important : after.important = true → before.important = true

namespace Grows

theorem refl (contribution : Contribution) : Grows contribution contribution :=
  ⟨rfl, List.prefix_rfl, List.prefix_rfl, id⟩

theorem trans
    {first second third : Contribution}
    (left : Grows first second)
    (right : Grows second third) :
    Grows first third where
  className := right.className.trans left.className
  declarations := left.declarations.trans right.declarations
  rootRules := left.rootRules.trans right.rootRules
  important := left.important ∘ right.important

end Grows

/-! ## Changes -/

/-- What a part does to a contribution. -/
inductive Change where
  | relax
  /-- Take an at-rule, if there is one. -/
  | confine (atRule : Option Text)
  | animate (keyframes : Option Keyframes)
  | describe (fontFace : Option Text)
  /-- Write the selector for the instructions in a text. -/
  | select (written : Text)
  | declare (declarations : List Text)
  | declareRoots (roots : List RootValue)

/-- The field that a change touches. -/
def Change.field : Change → Field
  | .relax => .important
  | .confine _ => .atRule
  | .animate _ => .keyframes
  | .describe _ => .fontFace
  | .select _ => .selector
  | .declare _ => .declarations
  | .declareRoots _ => .rootRules

/-- The declarations that a change adds. -/
def Change.declared : Change → List Text
  | .declare declarations => declarations
  | _ => []

/-- A contribution after a change. -/
def apply (contribution : Contribution) : Change → Contribution
  | .relax => { contribution with important := false }
  | .confine atRule => { contribution with atRule := atRule.or contribution.atRule }
  | .animate keyframes => { contribution with keyframes := keyframes.or contribution.keyframes }
  | .describe fontFace => { contribution with fontFace := fontFace.or contribution.fontFace }
  | .select written =>
      { contribution with selector := Selector.ofTarget written contribution.className }
  | .declare declarations => contribution.declare declarations
  | .declareRoots roots =>
      { contribution with
        rootRules :=
          contribution.rootRules ++
            roots.map fun root => ⟨root.name, root.value, contribution.className⟩ }

variable (contribution : Contribution)

theorem apply_declare_nil : contribution.apply (.declare []) = contribution := by
  simp [apply, declare]

theorem apply_declareRoots_nil : contribution.apply (.declareRoots []) = contribution := by
  simp [apply]

theorem agreesBut_apply (change : Change) :
    contribution.AgreesBut change.field (contribution.apply change) := by
  cases change <;> rfl

theorem grows_apply (change : Change) : contribution.Grows (contribution.apply change) := by
  cases change with
  | relax =>
      refine ⟨rfl, List.prefix_rfl, List.prefix_rfl, ?_⟩
      intro turned
      cases turned
  | confine | animate | describe | select =>
      exact ⟨rfl, List.prefix_rfl, List.prefix_rfl, id⟩
  | declare => exact ⟨rfl, List.prefix_append _ _, List.prefix_rfl, id⟩
  | declareRoots => exact ⟨rfl, List.prefix_rfl, List.prefix_append _ _, id⟩

/-- Changes to different fields can be made in any order: none reads what another one writes. -/
theorem apply_comm {first second : Change} (apart : first.field ≠ second.field) :
    (contribution.apply first).apply second = (contribution.apply second).apply first := by
  cases first <;> cases second <;> first | rfl | exact absurd rfl apart

theorem declarations_apply (change : Change) :
    (contribution.apply change).declarations = contribution.declarations ++ change.declared := by
  cases change <;> first | rfl | exact (List.append_nil _).symm

end Contribution

open Contribution (Field Change)

/-- The field that parts of a kind can change.  A template can change any. -/
def PartKind.field? : PartKind → Option Field
  | .mediaQuery | .containerQuery => some .atRule
  | .keyframes => some .keyframes
  | .fontFace => some .fontFace
  | .target => some .selector
  | .customProperty | .declaration => some .declarations
  | .rootValue => some .rootRules
  | .template => none

namespace ClassName

/-! ## Parts that do not stand for others -/

/-- The field that a part can change. -/
def fieldOf? (part : Text) : Option Field :=
  if part = Grammar.unimportant then some .important else (PartKind.classify part).field?

theorem fieldOf?_ne_none {part : Text} (kind : PartKind.classify part ≠ .template) :
    fieldOf? part ≠ none := by
  unfold fieldOf?
  split
  · exact Option.some_ne_none _
  · cases classified : PartKind.classify part with
    | template => exact absurd classified kind
    | _ => exact Option.some_ne_none _

/-- In a state a part makes a change, whatever contribution it is added to. -/
def Makes (environment : Environment) (part : Text) (state : Expansion) (change : Change)
    (after : Expansion) : Prop :=
  ∀ levels contribution,
    applyPart environment levels part ⟨contribution, state⟩ = ⟨contribution.apply change, after⟩

section Makes

variable (environment : Environment) (part : Text) (state : Expansion)

theorem confine_eq (contribution : Contribution) (atRule : Option Text) :
    confine ⟨contribution, state⟩ atRule = ⟨contribution.apply (.confine atRule), state⟩ := by
  cases atRule <;> rfl

theorem applyNamed_eq
    (marker : Text)
    (add : Contribution → Text → Text → Contribution)
    (contribution : Contribution) :
    applyNamed environment marker part add ⟨contribution, state⟩ =
      let name := nameAfter marker part
      let value := environment.resolveText (Text.beyond Grammar.valueSeparator part) state
      ⟨if name = [] ∨ value.1 = [] then contribution else add contribution name value.1,
        value.2⟩ := by
  simp only [applyNamed]
  split <;> rfl

/-- Adding the part declares something, the same for every contribution. -/
def Declares (add : Progress → Progress) (state : Expansion) : Prop :=
  ∃ declarations after, ∀ contribution,
    add ⟨contribution, state⟩ = ⟨contribution.apply (.declare declarations), after⟩

theorem declares_applyNumeric (properties : List Text) (number : Text) :
    Declares (applyNumeric environment properties number) state := by
  let value := environment.resolve number state
  exact ⟨properties.map fun property => declaration property (Units.scaleToRem value.1), value.2,
    fun _ => rfl⟩

theorem declares_applyProperty : Declares (applyProperty environment part) state := by
  unfold Declares applyProperty
  cases (Cursor.ofText Grammar.valueSeparator part).next? with
  | none => exact ⟨[], state, fun contribution => by rw [contribution.apply_declare_nil]⟩
  | some taken =>
      let value := environment.resolveStream taken.2 state
      let declarations := (environment.lexicon.propertiesOf taken.1).map fun property =>
        declaration property value.1
      refine ⟨if value.1 = [] then [] else declarations, value.2, ?_⟩
      intro contribution
      dsimp only
      split
      · rw [contribution.apply_declare_nil]
      · rfl

theorem declares_applyDeclaration : Declares (applyDeclaration environment part) state := by
  unfold applyDeclaration
  cases environment.lexicon.aliasShorthand? part with
  | some shorthand => exact declares_applyNumeric environment state shorthand.1 shorthand.2
  | none =>
      cases environment.lexicon.propertyShorthand? part with
      | some shorthand => exact declares_applyNumeric environment state [shorthand.1] shorthand.2
      | none => exact declares_applyProperty environment part state

/-- A part that is no template makes a change to the field of its kind. -/
theorem applySimple_changes {kind : PartKind} {field : Field} (own : kind.field? = some field) :
    ∃ change after, change.field = field ∧ ∀ contribution,
      applySimple environment kind part ⟨contribution, state⟩ =
        ⟨contribution.apply change, after⟩ := by
  cases kind with
  | mediaQuery =>
      let atRule := Query.media? part
      exact ⟨.confine atRule, state, Option.some.inj own, fun contribution =>
        confine_eq state contribution atRule⟩
  | containerQuery =>
      let atRule := Query.container? part
      exact ⟨.confine atRule, state, Option.some.inj own, fun contribution =>
        confine_eq state contribution atRule⟩
  | keyframes =>
      let read := Keyframes.read? environment part state
      exact ⟨.animate read.1, read.2, Option.some.inj own, fun _ => rfl⟩
  | fontFace =>
      let read := FontFace.read? environment part state
      exact ⟨.describe read.1, read.2, Option.some.inj own, fun _ => rfl⟩
  | target =>
      let written := part.drop Grammar.target.length
      exact ⟨.select written, state, Option.some.inj own, fun _ => rfl⟩
  | template => cases own
  | declaration =>
      obtain ⟨declarations, after, added⟩ := declares_applyDeclaration environment part state
      exact ⟨.declare declarations, after, Option.some.inj own, added⟩
  | customProperty =>
      let name := nameAfter Grammar.customProperty part
      let value := environment.resolveText (Text.beyond Grammar.valueSeparator part) state
      refine ⟨.declare (if name = [] ∨ value.1 = [] then [] else
        [declaration ("--".toList ++ name) value.1]), value.2, Option.some.inj own, ?_⟩
      intro contribution
      simp only [applySimple, applyNamed_eq]
      split
      · rw [contribution.apply_declare_nil]
      · rfl
  | rootValue =>
      let name := nameAfter Grammar.rootValue part
      let value := environment.resolveText (Text.beyond Grammar.valueSeparator part) state
      refine ⟨.declareRoots (if name = [] ∨ value.1 = [] then [] else [⟨name, value.1⟩]), value.2,
        Option.some.inj own, ?_⟩
      intro contribution
      simp only [applySimple, applyNamed_eq]
      split
      · rw [contribution.apply_declareRoots_nil]
      · rfl

theorem formOf_of_field
    (lexicon : Lexicon)
    {part : Text}
    {field : Field}
    (written : part ≠ [])
    (ordinary : part ≠ Grammar.unimportant)
    (own : (PartKind.classify part).field? = some field) :
    formOf lexicon part = .simple (PartKind.classify part) := by
  rw [formOf, if_neg written, if_neg ordinary]
  cases kind : PartKind.classify part with
  | template =>
      rw [kind] at own
      cases own
  | _ => rfl

theorem applyPart_of_field
    {part : Text}
    {field : Field}
    (written : part ≠ [])
    (ordinary : part ≠ Grammar.unimportant)
    (own : (PartKind.classify part).field? = some field)
    (levels : Nat)
    (progress : Progress) :
    applyPart environment levels part progress =
      applySimple environment (PartKind.classify part) part progress := by
  rw [applyPart_eq, formOf_of_field environment.lexicon written ordinary own]

/-- A part that is no template makes one change, to the field of its kind. -/
theorem makes_of_field {part : Text} {field : Field} (own : fieldOf? part = some field) :
    ∃ change after, change.field = field ∧ Makes environment part state change after := by
  unfold Makes
  by_cases blank : part = []
  · subst blank
    refine ⟨.declare [], state, Option.some.inj own, fun levels contribution => ?_⟩
    rw [contribution.apply_declare_nil]
    exact applyPart_eq environment levels [] _
  · by_cases unimportant : part = Grammar.unimportant
    · subst unimportant
      exact ⟨.relax, state, Option.some.inj own, fun levels contribution =>
        applyPart_eq environment levels Grammar.unimportant _⟩
    · rw [fieldOf?, if_neg unimportant] at own
      obtain ⟨change, after, same, added⟩ := applySimple_changes environment part state own
      refine ⟨change, after, same, fun levels contribution => ?_⟩
      rw [applyPart_of_field environment blank unimportant own]
      exact added contribution

/-- A template that is no class of its own declares something, or nothing at all. -/
theorem makes_of_template
    {part : Text}
    (kind : PartKind.classify part = .template)
    (single : inlined? environment.lexicon part = none) :
    ∃ declarations after, Makes environment part state (.declare declarations) after := by
  unfold Makes
  have written : part ≠ [] := by
    rintro rfl
    cases kind
  have ordinary : part ≠ Grammar.unimportant := by
    rintro rfl
    cases kind
  have form : formOf environment.lexicon part =
      .template (templateUse environment.lexicon part) := by
    rw [formOf, if_neg written, if_neg ordinary, kind]
  simp only [applyPart_eq, form]
  cases use : templateUse environment.lexicon part with
  | unknown =>
      refine ⟨[], state, fun levels contribution => ?_⟩
      rw [contribution.apply_declare_nil]
      rfl
  | declarations declarations => exact ⟨declarations, state, fun _ _ => rfl⟩
  | value template arguments =>
      let resolved := environment.resolveEach arguments state
      exact ⟨[template.substitute resolved.1], resolved.2, fun _ _ => rfl⟩
  | parts parts => simp [inlined?, form, use] at single

end Makes

/-- A part that does not stand for others makes one change, whatever it is. -/
theorem exists_makes
    (environment : Environment)
    {part : Text}
    (single : inlined? environment.lexicon part = none)
    (state : Expansion) :
    ∃ change after, Makes environment part state change after := by
  by_cases kind : PartKind.classify part = .template
  · obtain ⟨declarations, after, makes⟩ := makes_of_template environment state kind single
    exact ⟨.declare declarations, after, makes⟩
  · obtain ⟨field, own⟩ := Option.ne_none_iff_exists'.1 (fieldOf?_ne_none kind)
    obtain ⟨change, after, _, makes⟩ := makes_of_field environment state own
    exact ⟨change, after, makes⟩

/-! ## All parts -/

/-- By induction on the levels left: a template that is a class of its own adds its parts one
after the other. -/
theorem grows_applyPart
    (environment : Environment)
    (levels : Nat)
    (part : Text)
    (progress : Progress) :
    progress.contribution.Grows (applyPart environment levels part progress).contribution := by
  induction levels using Nat.strongRecOn generalizing part progress with
  | ind levels inductionHypothesis =>
      obtain ⟨contribution, state⟩ := progress
      cases inlined : inlined? environment.lexicon part with
      | none =>
          obtain ⟨change, after, makes⟩ := exists_makes environment inlined state
          rw [makes]
          exact contribution.grows_apply change
      | some parts =>
          rw [applyPart_eq, formOf_of_inlined? inlined]
          cases levels with
          | zero => exact Contribution.Grows.refl contribution
          | succ deeper =>
              refine List.foldlRecOn
                (motive := fun inner : Progress => contribution.Grows inner.contribution)
                parts _ (Contribution.Grows.refl contribution) ?_
              intro inner grows nested _
              exact grows.trans
                (inductionHypothesis deeper (Nat.lt_succ_self deeper) nested inner)

end ClassName

end AtomicCss
