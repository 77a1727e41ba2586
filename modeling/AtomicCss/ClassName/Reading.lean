import AtomicCss.ClassName.Contribution
import AtomicCss.ClassName.FontFace
import AtomicCss.ClassName.Part
import AtomicCss.ClassName.Query
import AtomicCss.Text.Blank

/-!
Contract: reading class names.

Owns:
- what a part of each kind adds to a contribution;
- the inlining of templates that are classes of their own, down to the ceiling;
- the reading of a whole class name.

Does not own: how the values in parts are resolved.
-/

namespace AtomicCss.ClassName

/-- A contribution under construction, with the state of the expansion. -/
structure Progress where
  contribution : Contribution
  state : Expansion
deriving DecidableEq, Repr

/-- Change the contribution only. -/
def Progress.update (progress : Progress) (change : Contribution → Contribution) :
    Progress :=
  { progress with contribution := change progress.contribution }

/-- A declaration in CSS. -/
def declaration (property value : Text) : Text :=
  property ++ ": ".toList ++ value

/-! ## Parts that are no templates -/

/-- Take an at-rule, if there is one. -/
def confine (progress : Progress) (atRule : Option Text) : Progress :=
  match atRule with
  | some atRule => progress.update fun contribution => { contribution with atRule := atRule }
  | none => progress

/-- The name of a custom property or root value after a marker. -/
def nameAfter (marker part : Text) : Text :=
  (Text.before Grammar.valueSeparator part).drop marker.length

/-- A part that names a custom property and gives its value.  Without a name or a
value it adds nothing. -/
def applyNamed
    (environment : Environment)
    (marker part : Text)
    (add : Contribution → Text → Text → Contribution)
    (progress : Progress) : Progress :=
  let name := nameAfter marker part
  let value :=
    environment.resolveText (Text.beyond Grammar.valueSeparator part) progress.state
  let resolved : Progress := ⟨progress.contribution, value.2⟩
  if name = [] ∨ value.1 = [] then
    resolved
  else
    resolved.update fun contribution => add contribution name value.1

/-- Declare a custom property on the elements of the class. -/
def addCustomProperty (contribution : Contribution) (name value : Text) : Contribution :=
  contribution.declare [declaration ("--".toList ++ name) value]

/-- A number right after an abbreviation or property: the value is resolved, and a
bare integer is scaled to root ems. -/
def applyNumeric
    (environment : Environment)
    (properties : List Text)
    (number : Text)
    (progress : Progress) : Progress :=
  let value := environment.resolve number progress.state
  let scaled := Units.scaleToRem value.1
  ⟨progress.contribution.declare (properties.map fun property => declaration property scaled),
    value.2⟩

/-- A property token and its values.  An empty value declares nothing. -/
def applyProperty (environment : Environment) (part : Text) (progress : Progress) :
    Progress :=
  match (Cursor.ofText Grammar.valueSeparator part).next? with
  | none => progress
  | some (token, values) =>
      let value := environment.resolveStream values progress.state
      if value.1 = [] then
        ⟨progress.contribution, value.2⟩
      else
        ⟨progress.contribution.declare
            ((environment.lexicon.propertiesOf token).map fun property =>
              declaration property value.1),
          value.2⟩

/-- A part without a marker: a number after an abbreviation, a number after a
property, or a property token and its values. -/
def applyDeclaration (environment : Environment) (part : Text) (progress : Progress) :
    Progress :=
  match environment.lexicon.aliasShorthand? part with
  | some (properties, number) => applyNumeric environment properties number progress
  | none =>
      match environment.lexicon.propertyShorthand? part with
      | some (property, number) => applyNumeric environment [property] number progress
      | none => applyProperty environment part progress

/-! ## Templates -/

/-- What a template part asks for. -/
inductive TemplateUse where
  /-- There is no such template. -/
  | unknown
  /-- Read these parts in place of the template. -/
  | parts (parts : List Text)
  /-- Take these declarations over. -/
  | declarations (declarations : List Text)
  /-- Resolve the arguments and take the filled-in blueprint as a declaration. -/
  | value (template : Template) (arguments : List Text)
deriving DecidableEq, Repr

/-- The arguments of a template part as they are written. -/
def rawArguments (part : Text) : List Text :=
  let given := Text.beyond Grammar.valueSeparator part
  if given = [] then [] else Text.split Grammar.valueSeparator given

/-- The declarations in a list of them. -/
def declarationList (text : Text) : List Text :=
  ((Text.split ';' text).map Text.trim).filter fun declaration => !declaration.isEmpty

/-- What a template part asks for, decided by the shape of its blueprint with the
arguments as they are written. -/
def templateUse (lexicon : Lexicon) (part : Text) : TemplateUse :=
  match lexicon.templates.get? (nameAfter Grammar.template part) with
  | none => .unknown
  | some template =>
      let arguments := rawArguments part
      let expanded := template.substitute arguments
      match Text.after? Grammar.scheme expanded with
      | some body => .parts (Grammar.parts body)
      | none =>
          if Template.isDeclarations expanded then
            .declarations (declarationList expanded)
          else
            .value template arguments

/-! ## Parts -/

/-- Add a part of any kind but a template. -/
def applySimple
    (environment : Environment)
    (kind : PartKind)
    (part : Text)
    (progress : Progress) : Progress :=
  match kind with
  | .mediaQuery => confine progress (Query.media? part)
  | .containerQuery => confine progress (Query.container? part)
  | .keyframes =>
      let read := Keyframes.read? environment part progress.state
      let contribution := progress.contribution
      ⟨{ contribution with keyframes := read.1.or contribution.keyframes }, read.2⟩
  | .fontFace =>
      let read := FontFace.read? environment part progress.state
      let contribution := progress.contribution
      ⟨{ contribution with fontFace := read.1.or contribution.fontFace }, read.2⟩
  | .target =>
      progress.update fun contribution =>
        { contribution with
          selector :=
            Selector.ofTarget (part.drop Grammar.target.length) contribution.className }
  | .customProperty =>
      applyNamed environment Grammar.customProperty part addCustomProperty progress
  | .rootValue =>
      applyNamed environment Grammar.rootValue part Contribution.declareRoot progress
  | .template => progress
  | .declaration => applyDeclaration environment part progress

/-- Add a part when expansions can nest `levels` deeper.  Empty parts add nothing;
the parts of a template are added in its place, one level deeper. -/
def applyPart (environment : Environment) (levels : Nat) (part : Text)
    (progress : Progress) : Progress :=
  if part = [] then
    progress
  else if part = Grammar.unimportant then
    progress.update fun contribution => { contribution with important := false }
  else
    match PartKind.classify part with
    | .template =>
        match templateUse environment.lexicon part with
        | .unknown => progress
        | .declarations declarations =>
            progress.update fun contribution => contribution.declare declarations
        | .value template arguments =>
            let resolved := environment.resolveEach arguments progress.state
            ⟨progress.contribution.declare [template.substitute resolved.1], resolved.2⟩
        | .parts parts =>
            match levels with
            | 0 => { progress with state := progress.state.refuse }
            | deeper + 1 =>
                let inside :=
                  parts.foldl (fun inner nested => applyPart environment deeper nested inner)
                    { progress with state := progress.state.deepen }
                { inside with state := inside.state.leave }
    | kind => applySimple environment kind part progress

/-- Add parts one after the other. -/
def applyParts (environment : Environment) (parts : List Text) (progress : Progress) :
    Progress :=
  parts.foldl
    (fun progress part =>
      applyPart environment progress.state.levelsLeft part progress)
    progress

/-! ## Class names -/

/-- The parts of a class name. -/
def partsOf (className : Text) : Except ClassFault (List Text) :=
  match Text.after? Grammar.scheme className with
  | none => .error .noScheme
  | some [] => .error .noParts
  | some body => .ok (Grammar.parts body)

/-- What came of reading a class name. -/
structure Outcome where
  /-- Nothing when the class name is sound but has no output. -/
  contribution : Option Contribution
  notices : List Notice
deriving DecidableEq, Repr

/-- The declarations on the root element that values recorded, after those of
the parts. -/
def withRootValues (progress : Progress) : Contribution :=
  progress.state.rootValues.foldl
    (fun contribution root => contribution.declareRoot root.name root.value)
    progress.contribution

/-- What the parts of a class name come to.  One part that turns importance off does so
for all. -/
def progressOf
    (environment : Environment)
    (ceiling : Nat)
    (className : Text)
    (parts : List Text) : Progress :=
  let start := Contribution.start className (!parts.contains Grammar.unimportant)
  let kept := parts.filter fun part => part ≠ Grammar.unimportant
  applyParts environment kept ⟨start, Expansion.start className ceiling⟩

/-- Read a class name. -/
def read (environment : Environment) (ceiling : Nat) (className : Text) :
    Except ClassFault Outcome :=
  (partsOf className).map fun parts =>
    let progress := progressOf environment ceiling className parts
    let contribution := withRootValues progress
    ⟨if contribution.hasOutput then some contribution else none, progress.state.notices⟩

end AtomicCss.ClassName
