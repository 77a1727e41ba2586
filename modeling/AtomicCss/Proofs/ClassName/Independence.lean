import AtomicCss.Proofs.ClassName.Ceiling
import AtomicCss.Proofs.Value.Independence

/-!
Contract: parts whose meaning depends neither on the class name nor on the surroundings.

Owns:
- contributions that agree in all but the class name, the selector and the class names that root
  declarations are marked with;
- the agreement of what parts come to for two class names in two surroundings, under a lexicon
  whose markers read neither;
- a small lexicon of this kind.

Does not own: values.

## Why contributions are compared and not computed from each other

A target part replaces the selector by one that it makes from the class name, so the selector of
one class name is no function of that of another.  No other part reads the selector or the class
name, except that a root declaration is marked with it.
-/

namespace AtomicCss

open Expansion

/-- The name and the value of a root declaration, without the class name that declares it. -/
def RootDeclaration.unmarked (root : RootDeclaration) : RootValue :=
  ⟨root.name, root.value⟩

/-- Two contributions agree in everything but the class name, the selector, and the class names
that their root declarations are marked with. -/
structure Contribution.AgreesButName (first second : Contribution) : Prop where
  declarations : second.declarations = first.declarations
  atRule : second.atRule = first.atRule
  important : second.important = first.important
  keyframes : second.keyframes = first.keyframes
  fontFace : second.fontFace = first.fontFace
  rootRules :
    second.rootRules.map RootDeclaration.unmarked = first.rootRules.map RootDeclaration.unmarked

namespace Contribution.AgreesButName

variable {first second : Contribution}

theorem start (className name : Text) (important : Bool) :
    AgreesButName (Contribution.start className important) (Contribution.start name important) :=
  ⟨rfl, rfl, rfl, rfl, rfl, rfl⟩

theorem declare (agrees : AgreesButName first second) (declarations : List Text) :
    AgreesButName (first.declare declarations) (second.declare declarations) :=
  { agrees with declarations := congrArg (· ++ declarations) agrees.declarations }

theorem declareRoot (agrees : AgreesButName first second) (name value : Text) :
    AgreesButName (first.declareRoot name value) (second.declareRoot name value) :=
  { agrees with
    rootRules := by
      simp only [Contribution.declareRoot, List.map_append, agrees.rootRules]
      rfl }

end Contribution.AgreesButName

namespace ClassName

/-- Two progresses agree but for the class name, which is `name` in the second one. -/
structure Progress.AgreesButName (name : Text) (first second : Progress) : Prop where
  contribution : first.contribution.AgreesButName second.contribution
  state : second.state = first.state.renamed name

namespace Progress.AgreesButName

variable {name : Text} {first second : Progress}

/-- What is added to both contributions after computations that agree keeps the agreement. -/
theorem add
    (agrees : AgreesButName name first second)
    {α : Type}
    {resolve other : Expansion → α × Expansion}
    (same : SameButName name resolve other)
    {change : α → Contribution → Contribution}
    (keeps : ∀ result {contribution contribution' : Contribution},
      contribution.AgreesButName contribution' →
        (change result contribution).AgreesButName (change result contribution')) :
    AgreesButName name
      ⟨change (resolve first.state).1 first.contribution, (resolve first.state).2⟩
      ⟨change (other second.state).1 second.contribution, (other second.state).2⟩ := by
  have resolved := same first.state
  rw [← agrees.state] at resolved
  constructor
  · simp only [resolved]
    exact keeps _ agrees.contribution
  · simp only [resolved]

theorem update
    (agrees : AgreesButName name first second)
    {change : Contribution → Contribution}
    (keeps : ∀ {contribution contribution' : Contribution},
      contribution.AgreesButName contribution' →
        (change contribution).AgreesButName (change contribution')) :
    AgreesButName name (first.update change) (second.update change) :=
  ⟨keeps agrees.contribution, agrees.state⟩

end Progress.AgreesButName

/-! ## Parts without a template -/

section Agreement

variable
  {lexicon : Lexicon}
  (detached : lexicon.Detached)
  (ambient other : Ambient)
  {name : Text}
  {first second : Progress}
  (agrees : first.AgreesButName name second)

include agrees

theorem agreesButName_confine (atRule : Option Text) :
    (confine first atRule).AgreesButName name (confine second atRule) := by
  cases atRule with
  | none => exact agrees
  | some atRule =>
      let confined (contribution : Contribution) := { contribution with atRule := some atRule }
      have keeps {contribution contribution' : Contribution}
          (same : contribution.AgreesButName contribution') :
          (confined contribution).AgreesButName (confined contribution') :=
        { same with atRule := rfl }
      exact agrees.update keeps

include detached

theorem agreesButName_applyNamed
    (marker part : Text)
    {add : Contribution → Text → Text → Contribution}
    (keeps : ∀ name value {contribution contribution' : Contribution},
      contribution.AgreesButName contribution' →
        (add contribution name value).AgreesButName (add contribution' name value)) :
    (applyNamed ⟨lexicon, ambient⟩ marker part add first).AgreesButName name
      (applyNamed ⟨lexicon, other⟩ marker part add second) := by
  let change (value : Text) (contribution : Contribution) :=
    if nameAfter marker part = [] ∨ value = [] then
      contribution
    else
      add contribution (nameAfter marker part) value
  have read (surroundings : Ambient) (progress : Progress) :
      applyNamed ⟨lexicon, surroundings⟩ marker part add progress =
        let value := Environment.resolveText ⟨lexicon, surroundings⟩
          (Text.beyond Grammar.valueSeparator part) progress.state
        ⟨change value.1 progress.contribution, value.2⟩ := by
    simp only [applyNamed, change]
    split <;> rfl
  rw [read, read]
  refine agrees.add (Environment.sameButName_resolveText detached name ambient other _) ?_
  intro value contribution contribution' same
  simp only [change]
  split
  · exact same
  · exact keeps _ _ same

theorem agreesButName_applyNumeric (properties : List Text) (number : Text) :
    (applyNumeric ⟨lexicon, ambient⟩ properties number first).AgreesButName name
      (applyNumeric ⟨lexicon, other⟩ properties number second) :=
  agrees.add (detached.read false number name ambient other) fun value _ _ same =>
    same.declare (properties.map fun property => declaration property (Units.scaleToRem value))

theorem agreesButName_applyProperty (part : Text) :
    (applyProperty ⟨lexicon, ambient⟩ part first).AgreesButName name
      (applyProperty ⟨lexicon, other⟩ part second) := by
  cases next : (Cursor.ofText Grammar.valueSeparator part).next? with
  | none =>
      simp only [applyProperty, next]
      exact agrees
  | some taken =>
      let change (value : Text) (contribution : Contribution) :=
        if value = [] then
          contribution
        else
          contribution.declare
            ((lexicon.propertiesOf taken.1).map fun property => declaration property value)
      have read (surroundings : Ambient) (progress : Progress) :
          applyProperty ⟨lexicon, surroundings⟩ part progress =
            let value :=
              Environment.resolveStream ⟨lexicon, surroundings⟩ taken.2 progress.state
            ⟨change value.1 progress.contribution, value.2⟩ := by
        simp only [applyProperty, next, change]
        split <;> rfl
      rw [read, read]
      refine agrees.add (Environment.sameButName_resolveStream detached name ambient other _) ?_
      intro value contribution contribution' same
      simp only [change]
      split
      · exact same
      · exact same.declare _

theorem agreesButName_applyDeclaration (part : Text) :
    (applyDeclaration ⟨lexicon, ambient⟩ part first).AgreesButName name
      (applyDeclaration ⟨lexicon, other⟩ part second) := by
  unfold applyDeclaration
  cases lexicon.aliasShorthand? part with
  | some shorthand => exact agreesButName_applyNumeric detached ambient other agrees _ _
  | none =>
      cases lexicon.propertyShorthand? part with
      | some shorthand => exact agreesButName_applyNumeric detached ambient other agrees _ _
      | none => exact agreesButName_applyProperty detached ambient other agrees part

/-- A target part changes the selector only.  All others add what they read. -/
theorem agreesButName_applySimple (kind : PartKind) (part : Text) :
    (applySimple ⟨lexicon, ambient⟩ kind part first).AgreesButName name
      (applySimple ⟨lexicon, other⟩ kind part second) := by
  have composable := SameButName.composable name
  have values := fun chunk => detached.readChunk chunk name ambient other
  cases kind with
  | mediaQuery => exact agreesButName_confine agrees (Query.media? part)
  | containerQuery => exact agreesButName_confine agrees (Query.container? part)
  | keyframes =>
      let animated (keyframes : Option Keyframes) (contribution : Contribution) :=
        { contribution with keyframes := keyframes.or contribution.keyframes }
      have keeps keyframes {contribution contribution' : Contribution}
          (same : contribution.AgreesButName contribution') :
          (animated keyframes contribution).AgreesButName (animated keyframes contribution') :=
        { same with keyframes := congrArg (Option.or keyframes) same.keyframes }
      exact agrees.add (Keyframes.related_read? composable values part) keeps
  | fontFace =>
      let described (fontFace : Option Text) (contribution : Contribution) :=
        { contribution with fontFace := fontFace.or contribution.fontFace }
      have keeps fontFace {contribution contribution' : Contribution}
          (same : contribution.AgreesButName contribution') :
          (described fontFace contribution).AgreesButName (described fontFace contribution') :=
        { same with fontFace := congrArg (Option.or fontFace) same.fontFace }
      exact agrees.add (FontFace.related_read? composable values part) keeps
  | target =>
      have same := agrees.contribution
      exact
        ⟨⟨same.declarations, same.atRule, same.important, same.keyframes, same.fontFace,
          same.rootRules⟩, agrees.state⟩
  | customProperty =>
      exact agreesButName_applyNamed detached ambient other agrees _ part
        fun _ _ _ _ same => same.declare _
  | rootValue =>
      exact agreesButName_applyNamed detached ambient other agrees _ part
        fun name value _ _ same => same.declareRoot name value
  | template => exact agrees
  | declaration => exact agreesButName_applyDeclaration detached ambient other agrees part

/-! ## Parts -/

/-- By induction on the levels left: the parts of a template that is a class of its own are the
same for both class names, since the arguments are put in as they are written. -/
theorem agreesButName_applyPart (levels : Nat) (part : Text) :
    (applyPart ⟨lexicon, ambient⟩ levels part first).AgreesButName name
      (applyPart ⟨lexicon, other⟩ levels part second) := by
  induction levels using Nat.strongRecOn generalizing part first second with
  | ind levels inductionHypothesis =>
      rw [applyPart_eq, applyPart_eq]
      dsimp only
      cases formOf lexicon part with
      | blank => exact agrees
      | unimportant =>
          have keeps {contribution contribution' : Contribution}
              (same : contribution.AgreesButName contribution') :
              (relax contribution).AgreesButName (relax contribution') :=
            { same with important := rfl }
          exact agrees.update keeps
      | simple kind => exact agreesButName_applySimple detached ambient other agrees kind part
      | template use =>
          cases use with
          | unknown => exact agrees
          | declarations declarations =>
              exact agrees.update fun same => same.declare declarations
          | value template arguments =>
              have resolved :=
                Environment.sameButName_resolveEach detached name ambient other arguments
              exact agrees.add resolved fun texts _ _ same =>
                same.declare [template.substitute texts]
          | parts parts =>
              cases levels with
              | zero =>
                  refine ⟨agrees.contribution, ?_⟩
                  simp only [applyTemplate, agrees.state, renamed_refuse]
              | succ deeper =>
                  have deepened : ({ first with state := first.state.deepen } :
                      Progress).AgreesButName name
                        { second with state := second.state.deepen } :=
                    ⟨agrees.contribution, congrArg deepen agrees.state⟩
                  have inside :
                      (applyInside ⟨lexicon, ambient⟩ deeper parts
                        { first with state := first.state.deepen }).AgreesButName name
                          (applyInside ⟨lexicon, other⟩ deeper parts
                            { second with state := second.state.deepen }) := by
                    refine List.foldl_rel deepened ?_
                    intro nested _ inner inner' same
                    exact inductionHypothesis deeper (Nat.lt_succ_self deeper) same nested
                  exact ⟨inside.contribution, congrArg leave inside.state⟩

theorem agreesButName_applyParts (parts : List Text) :
    (applyParts ⟨lexicon, ambient⟩ parts first).AgreesButName name
      (applyParts ⟨lexicon, other⟩ parts second) := by
  refine List.foldl_rel agrees ?_
  intro part _ progress progress' same
  have levels : progress'.state.levelsLeft = progress.state.levelsLeft := by
    rw [same.state]
    rfl
  rw [levels]
  exact agreesButName_applyPart detached ambient other same _ part

omit detached ambient other in
/-- The root values recorded on the side are the same ones, so the contributions agree with them
as well. -/
theorem agreesButName_withRootValues :
    (withRootValues first).AgreesButName (withRootValues second) := by
  unfold withRootValues
  rw [agrees.state]
  refine List.foldl_rel agrees.contribution ?_
  intro root _ contribution contribution' same
  exact same.declareRoot root.name root.value

end Agreement

/-! ## Fresh starts -/

/-- Under a lexicon that binds no marker to targets and computed functions, the class name and the
surroundings do not show in what parts come to.  From the start of two class names, the same parts
give contributions that agree in all but the class name, the selector and the marks of root
declarations, also with the root values that were recorded on the side, and states that agree in
all but the class name. -/
theorem applyParts_independent
    {lexicon : Lexicon}
    (detached : lexicon.Detached)
    (ambient other : Ambient)
    (ceiling : Nat)
    (important : Bool)
    (className name : Text)
    (parts : List Text) :
    let first := applyParts ⟨lexicon, ambient⟩ parts
      ⟨Contribution.start className important, Expansion.start className ceiling⟩
    let second := applyParts ⟨lexicon, other⟩ parts
      ⟨Contribution.start name important, Expansion.start name ceiling⟩
    first.contribution.AgreesButName second.contribution ∧
      (withRootValues first).AgreesButName (withRootValues second) ∧
      second.state.limitHit = first.state.limitHit ∧
      second.state = first.state.renamed name := by
  intro first second
  have agrees : first.AgreesButName name second :=
    agreesButName_applyParts detached ambient other
      ⟨Contribution.AgreesButName.start className name important, rfl⟩ parts
  have limitHit : second.state.limitHit = first.state.limitHit := by
    rw [agrees.state]
    rfl
  exact ⟨agrees.contribution, agreesButName_withRootValues agrees, limitHit, agrees.state⟩

/-! ## A small lexicon -/

/-- The small lexicon with its markers of targets and computed functions bound to quoted
strings. -/
def detachedPalette : Lexicon :=
  (palette.lexicon.register "tar-".toList .quotedString).register "cfn-".toList .quotedString

/-- A template and a target, read for two class names by two clocks: the declarations are the
same, the selectors are not. -/
theorem applyParts_independent_hover :
    let parts := ["tpl-red".toList, "tar-pc-hover".toList]
    let first := applyParts ⟨detachedPalette, ⟨0, none, []⟩⟩ parts
      ⟨Contribution.start "cssf--a".toList true, Expansion.start "cssf--a".toList 10⟩
    let second := applyParts ⟨detachedPalette, ⟨7, some (1280, 720), ['4']⟩⟩ parts
      ⟨Contribution.start "cssf--b".toList true, Expansion.start "cssf--b".toList 10⟩
    detachedPalette.Detached ∧
      first.contribution.declarations = ["color: red".toList] ∧
      second.contribution.declarations = ["color: red".toList] ∧
      second.contribution.selector ≠ first.contribution.selector := by
  intro parts first second
  have detached : detachedPalette.Detached := by decide
  obtain ⟨agrees, _, _, _⟩ := applyParts_independent detached ⟨0, none, []⟩
    ⟨7, some (1280, 720), ['4']⟩ 10 true "cssf--a".toList "cssf--b".toList parts
  have declared : first.contribution.declarations = ["color: red".toList] := by rfl
  have selectors : first.contribution.selector =
        Selector.ofTarget "pc-hover".toList "cssf--a".toList ∧
      second.contribution.selector = Selector.ofTarget "pc-hover".toList "cssf--b".toList :=
    ⟨by rfl, by rfl⟩
  have read : Selector.instructions "pc-hover".toList = [.pseudoClass "hover".toList] := by cbv
  refine ⟨detached, declared, agrees.declarations.trans declared, ?_⟩
  rw [selectors.1, selectors.2, Selector.ofTarget, Selector.ofTarget, read]
  decide

end ClassName

end AtomicCss
