import AtomicCss.ClassName.Reading

/-!
Contract: the ways in which a part of a class name is read.

Owns:
- the form of a part, which the lexicon decides before anything is added;
- what a part of each form adds;
- the fields that a part without a template leaves as they are;
- the contribution of a whole class name;
- a small environment with a template of each shape.

Does not own: how values are resolved.
-/

namespace AtomicCss.ClassName

/-! ## Forms -/

/-- How a part is read. -/
inductive Form where
  /-- The part adds nothing. -/
  | blank
  /-- The part turns importance off. -/
  | unimportant
  | simple (kind : PartKind)
  | template (use : TemplateUse)
deriving DecidableEq, Repr

/-- The form of a part under a lexicon. -/
def formOf (lexicon : Lexicon) (part : Text) : Form :=
  if part = [] then
    .blank
  else if part = Grammar.unimportant then
    .unimportant
  else
    match PartKind.classify part with
    | .template => .template (templateUse lexicon part)
    | kind => .simple kind

/-- Add parts one after the other, each of which can nest `levels` deeper. -/
def applyInside (environment : Environment) (levels : Nat) (parts : List Text)
    (progress : Progress) : Progress :=
  parts.foldl (fun inner nested => applyPart environment levels nested inner) progress

/-- Turn importance off. -/
def relax (contribution : Contribution) : Contribution :=
  { contribution with important := false }

/-- Add what a template part asks for. -/
def applyTemplate (environment : Environment) (levels : Nat) (use : TemplateUse)
    (progress : Progress) : Progress :=
  match use with
  | .unknown => progress
  | .declarations declarations =>
      progress.update fun contribution => contribution.declare declarations
  | .value template arguments =>
      let resolved := environment.resolveEach arguments progress.state
      ⟨progress.contribution.declare [template.substitute resolved.1], resolved.2⟩
  | .parts parts =>
      match levels with
      | 0 => { progress with state := progress.state.refuse }
      | deeper + 1 =>
          let inside :=
            applyInside environment deeper parts
              { progress with state := progress.state.deepen }
          { inside with state := inside.state.leave }

/-- What a part adds depends on its form. -/
theorem applyPart_eq
    (environment : Environment)
    (levels : Nat)
    (part : Text)
    (progress : Progress) :
    applyPart environment levels part progress =
      match formOf environment.lexicon part with
      | .blank => progress
      | .unimportant => progress.update relax
      | .simple kind => applySimple environment kind part progress
      | .template use => applyTemplate environment levels use progress := by
  unfold applyPart formOf
  by_cases blank : part = []
  · simp only [if_pos blank]
  · by_cases unimportant : part = Grammar.unimportant
    · simp only [if_neg blank, if_pos unimportant]
      rfl
    · simp only [if_neg blank, if_neg unimportant]
      cases PartKind.classify part with
      | template =>
          cases templateUse environment.lexicon part with
          | parts parts => cases levels <;> rfl
          | _ => rfl
      | _ => rfl

/-- The parts of a template that is a class of its own are those of its body. -/
theorem templateUse_parts
    {lexicon : Lexicon}
    {part : Text}
    {parts : List Text}
    (use : templateUse lexicon part = .parts parts) :
    ∃ body, parts = Grammar.parts body := by
  simp only [templateUse] at use
  split at use
  · cases use
  · split at use
    · cases use
      exact ⟨_, rfl⟩
    · split at use <;> cases use

theorem formOf_parts
    {lexicon : Lexicon}
    {part : Text}
    {parts : List Text}
    (form : formOf lexicon part = .template (.parts parts)) :
    ∃ body, parts = Grammar.parts body := by
  unfold formOf at form
  split at form
  · cases form
  · split at form
    · cases form
    · split at form
      · exact templateUse_parts (Form.template.inj form)
      · cases form

theorem classify_template {part : Text} (marked : Text.startsWith Grammar.template part = true) :
    PartKind.classify part = .template := by
  obtain ⟨rest, found⟩ := Option.isSome_iff_exists.1 marked
  rw [Text.after?_eq_some_iff] at found
  subst found
  rfl

/-- A template whose blueprint is a class of its own stands for the parts of its body. -/
theorem formOf_template
    {lexicon : Lexicon}
    {part body : Text}
    {template : Template}
    (marked : Text.startsWith Grammar.template part = true)
    (known : lexicon.templates.get? (nameAfter Grammar.template part) = some template)
    (expanded : template.substitute (rawArguments part) = Grammar.scheme ++ body) :
    formOf lexicon part = .template (.parts (Grammar.parts body)) := by
  have kind := classify_template marked
  have written : part ≠ [] := by
    rintro rfl
    cases marked
  have ordinary : part ≠ Grammar.unimportant := by
    rintro rfl
    cases marked
  have cut : Text.after? Grammar.scheme (template.substitute (rawArguments part)) = some body :=
    Text.after?_eq_some_iff.2 expanded
  rw [formOf, if_neg written, if_neg ordinary, kind]
  simp only [templateUse, known, cut]

/-! ## Fields that stay -/

section Simple

variable (environment : Environment) (part : Text) (progress : Progress)

/-- A part without a template keeps the class name. -/
theorem className_applySimple (kind : PartKind) :
    (applySimple environment kind part progress).contribution.className =
      progress.contribution.className := by
  cases kind with
  | mediaQuery => simp only [applySimple, confine]; split <;> rfl
  | containerQuery => simp only [applySimple, confine]; split <;> rfl
  | keyframes | fontFace | target | template => rfl
  | customProperty => simp only [applySimple, applyNamed]; split <;> rfl
  | rootValue => simp only [applySimple, applyNamed]; split <;> rfl
  | declaration =>
      simp only [applySimple, applyDeclaration, applyProperty]
      repeat' split
      all_goals rfl

/-- Only a target changes the selector. -/
theorem selector_applySimple {kind : PartKind} (other : kind ≠ .target) :
    (applySimple environment kind part progress).contribution.selector =
      progress.contribution.selector := by
  cases kind with
  | target => exact absurd rfl other
  | mediaQuery => simp only [applySimple, confine]; split <;> rfl
  | containerQuery => simp only [applySimple, confine]; split <;> rfl
  | keyframes | fontFace | template => rfl
  | customProperty => simp only [applySimple, applyNamed]; split <;> rfl
  | rootValue => simp only [applySimple, applyNamed]; split <;> rfl
  | declaration =>
      simp only [applySimple, applyDeclaration, applyProperty]
      repeat' split
      all_goals rfl

end Simple

/-! ## Whole class names -/

/-- A class name that can be cut into parts is the scheme and the text that they are
cut from. -/
theorem partsOf_eq_ok
    {className : Text}
    {parts : List Text}
    (cut : partsOf className = .ok parts) :
    ∃ body, className = Grammar.scheme ++ body ∧ parts = Grammar.parts body := by
  unfold partsOf at cut
  split at cut
  · cases cut
  · cases cut
  · rename_i body _ found
    exact ⟨body, Text.after?_eq_some_iff.1 found, (Except.ok.inj cut).symm⟩

/-- What a class name contributes.  It is nothing when the class name is at fault or has
no output. -/
def contribution? (environment : Environment) (ceiling : Nat) (className : Text) :
    Option Contribution :=
  match read environment ceiling className with
  | .ok outcome => outcome.contribution
  | .error _ => none

/-- A contribution is what the parts of the class name come to. -/
theorem contribution?_eq_some
    {environment : Environment}
    {ceiling : Nat}
    {className : Text}
    {contribution : Contribution}
    (found : contribution? environment ceiling className = some contribution) :
    ∃ parts, partsOf className = .ok parts ∧
      contribution = withRootValues (progressOf environment ceiling className parts) := by
  unfold contribution? read at found
  cases cut : partsOf className with
  | error fault => simp [cut, Except.map] at found
  | ok parts =>
      simp only [cut, Except.map] at found
      split at found
      · exact ⟨parts, rfl, (Option.some.inj found).symm⟩
      · cases found

theorem contribution?_of_partsOf
    {environment : Environment}
    {ceiling : Nat}
    {className : Text}
    {parts : List Text}
    (cut : partsOf className = .ok parts) :
    contribution? environment ceiling className =
      let contribution := withRootValues (progressOf environment ceiling className parts)
      if contribution.hasOutput then some contribution else none := by
  unfold contribution? read
  rw [cut]
  rfl

theorem read_of_partsOf
    {className : Text}
    {parts : List Text}
    (cut : partsOf className = .ok parts)
    (environment : Environment)
    (ceiling : Nat) :
    read environment ceiling className =
      let progress := progressOf environment ceiling className parts
      let contribution := withRootValues progress
      .ok ⟨if contribution.hasOutput then some contribution else none,
        progress.state.notices⟩ := by
  rw [read, cut]
  rfl

/-! ## Class names without a part that turns importance off -/

section Important

variable {parts : List Text} (ordinary : Grammar.unimportant ∉ parts)

include ordinary

theorem kept_of_not_mem : (parts.filter fun part => part ≠ Grammar.unimportant) = parts := by
  rw [List.filter_eq_self]
  intro part member
  have other : part ≠ Grammar.unimportant := fun same => ordinary (same ▸ member)
  simpa using other

theorem important_of_not_mem : (!parts.contains Grammar.unimportant) = true := by
  simpa using ordinary

theorem progressOf_of_not_mem
    (environment : Environment)
    (ceiling : Nat)
    (className : Text) :
    progressOf environment ceiling className parts =
      applyParts environment parts
        ⟨Contribution.start className true, Expansion.start className ceiling⟩ := by
  simp only [progressOf, kept_of_not_mem ordinary, important_of_not_mem ordinary]

end Important

/-- A class name of one part that is no template contributes what the part adds. -/
theorem contribution?_of_simple
    {environment : Environment}
    {ceiling : Nat}
    {className part : Text}
    {kind : PartKind}
    (cut : partsOf className = .ok [part])
    (form : formOf environment.lexicon part = .simple kind) :
    contribution? environment ceiling className =
      let contribution := withRootValues
        (applySimple environment kind part
          ⟨Contribution.start className true, Expansion.start className ceiling⟩)
      if contribution.hasOutput then some contribution else none := by
  have ordinary : Grammar.unimportant ∉ [part] := by
    rw [List.mem_singleton]
    rintro rfl
    cases form
  have added : progressOf environment ceiling className [part] =
      applySimple environment kind part
        ⟨Contribution.start className true, Expansion.start className ceiling⟩ := by
    rw [progressOf_of_not_mem ordinary, applyParts, List.foldl_cons, List.foldl_nil,
      applyPart_eq, form]
  rw [contribution?_of_partsOf cut, added]

/-! ## A small environment -/

/-- A marker for quoted strings, a template that is a list of declarations, and one that is
a class of its own and takes the name of a template. -/
def palette : Environment :=
  let markers := Lexicon.empty.register "q-".toList .quotedString
  let templates := markers.addTemplate "red".toList "color: red;".toList
  ⟨templates.addTemplate "box".toList "cssf--tpl-§0--ni".toList, ⟨0, none, []⟩⟩

namespace Palette

/-- The start of a class name that can nest one level deep. -/
def start : Progress :=
  let className := "cssf--tpl-red--tpl-box_red".toList
  ⟨Contribution.start className true, Expansion.start className 1⟩

theorem box_known :
    palette.lexicon.templates.get? (nameAfter Grammar.template "tpl-box_red".toList) =
      some ⟨"cssf--tpl-§0--ni".toList⟩ := by
  rfl

theorem box_expanded :
    Template.substitute ⟨"cssf--tpl-§0--ni".toList⟩ (rawArguments "tpl-box_red".toList) =
      Grammar.scheme ++ "tpl-red--ni".toList := by
  have given : rawArguments "tpl-box_red".toList = ["red".toList] := by rfl
  have index : Text.ofNat 0 = ['0'] := by rfl
  rw [given]
  show Text.replace Grammar.placeholder (Text.ofNat 0) "red".toList
    "cssf--tpl-§0--ni".toList = _
  rw [index]
  cbv

theorem applyPart_red (levels : Nat) (progress : Progress) :
    applyPart palette levels "tpl-red".toList progress =
      progress.update fun contribution => contribution.declare ["color: red".toList] := by
  have form : formOf palette.lexicon "tpl-red".toList =
      .template (.declarations ["color: red".toList]) := by rfl
  rw [applyPart_eq, form]
  rfl

theorem applyPart_box (levels : Nat) (progress : Progress) :
    applyPart palette levels "tpl-box_red".toList progress =
      match levels with
      | 0 => { progress with state := progress.state.refuse }
      | _ + 1 =>
          ⟨relax (progress.contribution.declare ["color: red".toList]),
            progress.state.deepen.leave⟩ := by
  have form : formOf palette.lexicon "tpl-box_red".toList =
      .template (.parts ["tpl-red".toList, "ni".toList]) :=
    formOf_template (by rfl) box_known box_expanded
  have plain : formOf palette.lexicon "ni".toList = .unimportant := by rfl
  rw [applyPart_eq, form]
  cases levels with
  | zero => rfl
  | succ deeper =>
      simp only [applyTemplate, applyInside, List.foldl_cons, List.foldl_nil, applyPart_red]
      rw [applyPart_eq, plain]
      rfl

/-- A class name with one template that is a list of declarations. -/
theorem contribution?_red :
    contribution? palette 10 "cssf--tpl-red".toList =
      some ((Contribution.start "cssf--tpl-red".toList true).declare
        ["color: red".toList]) := by
  have cut : partsOf "cssf--tpl-red".toList = .ok ["tpl-red".toList] := by rfl
  have kept : (["tpl-red".toList].filter fun part => part ≠ Grammar.unimportant) =
      ["tpl-red".toList] := by rfl
  unfold contribution? read
  rw [cut]
  simp only [Except.map, progressOf, kept, applyParts, List.foldl_cons, List.foldl_nil,
    applyPart_red]
  rfl

/-- The same template, with the rule on the elements of another class as well. -/
theorem contribution?_target :
    contribution? palette 10 "cssf--tpl-red--tar-self-class-b".toList =
      some
        { (Contribution.start "cssf--tpl-red--tar-self-class-b".toList true).declare
            ["color: red".toList] with
          selector :=
            Selector.ofTarget "self-class-b".toList
              "cssf--tpl-red--tar-self-class-b".toList } := by
  have cut : partsOf "cssf--tpl-red--tar-self-class-b".toList =
      .ok ["tpl-red".toList, "tar-self-class-b".toList] := by rfl
  have kept : (["tpl-red".toList, "tar-self-class-b".toList].filter
      fun part => part ≠ Grammar.unimportant) =
        ["tpl-red".toList, "tar-self-class-b".toList] := by rfl
  have target : formOf palette.lexicon "tar-self-class-b".toList = .simple .target := by rfl
  unfold contribution? read
  rw [cut]
  simp only [Except.map, progressOf, kept, applyParts, List.foldl_cons, List.foldl_nil,
    applyPart_red]
  rw [applyPart_eq, target]
  rfl

end Palette

end AtomicCss.ClassName
