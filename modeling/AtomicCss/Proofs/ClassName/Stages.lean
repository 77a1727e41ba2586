import AtomicCss.Proofs.ClassName.Ceiling

/-!
Contract: the stages in which a class name is read, one for each part that is left when
templates that are classes of their own have given way to their parts.

Owns:
- the stages in the order in which the parts stand, those of a template in its place, and
  their parts, which depend on the lexicon alone;
- lists to which parts only add, as what one stage after the other adds;
- the root declarations and the recorded root values as such lists.

Does not own: the order in which a contribution lists what was added.
-/

namespace AtomicCss.ClassName

open Expansion

/-! ## Stages -/

/-- A part that does not stand for others, with the progress before and after it. -/
structure Stage where
  part : Text
  before : Progress
  after : Progress

/-- The parts that a part stands for, if it is a template that is a class of its own. -/
def inlined? (lexicon : Lexicon) (part : Text) : Option (List Text) :=
  match formOf lexicon part with
  | .template (.parts parts) => some parts
  | _ => none

theorem formOf_of_inlined?
    {lexicon : Lexicon}
    {part : Text}
    {parts : List Text}
    (inlined : inlined? lexicon part = some parts) :
    formOf lexicon part = .template (.parts parts) := by
  unfold inlined? at inlined
  split at inlined
  · rename_i found form
    rw [form, Option.some.inj inlined]
  · cases inlined

/-- The stages of parts that are read one after the other. -/
def stagesAlong
    (stages : Text → Progress → List Stage)
    (apply : Text → Progress → Progress) : List Text → Progress → List Stage
  | [], _ => []
  | part :: others, progress =>
      stages part progress ++ stagesAlong stages apply others (apply part progress)

/-- The stages of a part when expansions can nest `levels` deeper.  A template for which no
level is left has none. -/
def stagesOf (environment : Environment) (levels : Nat) (part : Text) (progress : Progress) :
    List Stage :=
  match inlined? environment.lexicon part with
  | none => [⟨part, progress, applyPart environment levels part progress⟩]
  | some parts =>
      match levels with
      | 0 => []
      | deeper + 1 =>
          stagesAlong (stagesOf environment deeper) (applyPart environment deeper) parts
            { progress with state := progress.state.deepen }

/-- The stages of a class name. -/
def stages (environment : Environment) (ceiling : Nat) (className : Text) : List Stage :=
  match partsOf className with
  | .error _ => []
  | .ok parts =>
      stagesAlong (stagesOf environment ceiling) (applyPart environment ceiling)
        (parts.filter fun part => part ≠ Grammar.unimportant)
        ⟨Contribution.start className (!parts.contains Grammar.unimportant),
          Expansion.start className ceiling⟩

/-! ## Parts after inlining -/

/-- The parts that a part comes to when expansions can nest `levels` deeper.  A template for
which no level is left comes to none. -/
def inlinedParts (lexicon : Lexicon) (levels : Nat) (part : Text) : List Text :=
  match inlined? lexicon part with
  | none => [part]
  | some parts =>
      match levels with
      | 0 => []
      | deeper + 1 => parts.flatMap (inlinedParts lexicon deeper)

/-- The parts that a class name comes to, in the order in which they stand. -/
def inlinedPartsOf (lexicon : Lexicon) (ceiling : Nat) (className : Text) : List Text :=
  match partsOf className with
  | .error _ => []
  | .ok parts =>
      (parts.filter fun part => part ≠ Grammar.unimportant).flatMap
        (inlinedParts lexicon ceiling)

theorem map_part_stagesAlong
    {stages : Text → Progress → List Stage}
    {apply : Text → Progress → Progress}
    {inside : Text → List Text}
    (step : ∀ part progress, (stages part progress).map Stage.part = inside part)
    (parts : List Text)
    (progress : Progress) :
    (stagesAlong stages apply parts progress).map Stage.part = parts.flatMap inside := by
  induction parts generalizing progress with
  | nil => rfl
  | cons part others inductionHypothesis =>
      rw [stagesAlong, List.map_append, step, inductionHypothesis, List.flatMap_cons]

theorem map_part_stagesOf
    (environment : Environment)
    (levels : Nat)
    (part : Text)
    (progress : Progress) :
    (stagesOf environment levels part progress).map Stage.part =
      inlinedParts environment.lexicon levels part := by
  induction levels generalizing part progress with
  | zero =>
      unfold stagesOf inlinedParts
      cases inlined? environment.lexicon part <;> rfl
  | succ deeper inductionHypothesis =>
      unfold stagesOf inlinedParts
      cases inlined? environment.lexicon part with
      | none => rfl
      | some parts => exact map_part_stagesAlong inductionHypothesis parts _

/-- The stages of a class name are those of its parts after inlining, whatever is read in
them. -/
theorem map_part_stages (environment : Environment) (ceiling : Nat) (className : Text) :
    (stages environment ceiling className).map Stage.part =
      inlinedPartsOf environment.lexicon ceiling className := by
  unfold stages inlinedPartsOf
  cases partsOf className with
  | error fault => rfl
  | ok parts => exact map_part_stagesAlong (map_part_stagesOf environment ceiling) _ _

/-! ## Lists that grow -/

section AppendOnly

variable {environment : Environment} {β : Type} {view : Progress → List β}

/-- What a stage adds to a list. -/
def Stage.adds (view : Progress → List β) (stage : Stage) : List β :=
  (view stage.after).drop (view stage.before).length

/-- A list of the progress to which a part that does not stand for others only adds, and
which does not depend on the depth of the expansion or on its notices. -/
structure AppendOnly (environment : Environment) (view : Progress → List β) : Prop where
  part :
    ∀ (levels : Nat) {part : Text} (progress : Progress),
      inlined? environment.lexicon part = none →
        view progress <+: view (applyPart environment levels part progress)
  moved :
    ∀ (progress : Progress) {state : Expansion},
      state.rootValues = progress.state.rootValues →
        view { progress with state := state } = view progress

theorem view_stagesAlong
    {stages : Text → Progress → List Stage}
    {apply : Text → Progress → Progress}
    (step :
      ∀ part progress,
        view (apply part progress) =
          view progress ++ (stages part progress).flatMap (Stage.adds view))
    (parts : List Text)
    (progress : Progress) :
    view (parts.foldl (fun inner nested => apply nested inner) progress) =
      view progress ++ (stagesAlong stages apply parts progress).flatMap (Stage.adds view) := by
  induction parts generalizing progress with
  | nil => simp [stagesAlong]
  | cons part others inductionHypothesis =>
      rw [List.foldl_cons, inductionHypothesis, step, stagesAlong, List.flatMap_append,
        List.append_assoc]

theorem AppendOnly.view_applyPart
    (grows : AppendOnly environment view)
    (levels : Nat)
    (part : Text)
    (progress : Progress) :
    view (applyPart environment levels part progress) =
      view progress ++ (stagesOf environment levels part progress).flatMap
        (Stage.adds view) := by
  -- Beside what its parts do, a template that is a class of its own only changes the depth.
  induction levels generalizing part progress with
  | zero =>
      unfold stagesOf
      cases inlined : inlined? environment.lexicon part with
      | none =>
          have added := List.prefix_iff_eq_append.1 (grows.part 0 progress inlined)
          simp [Stage.adds, added]
      | some parts =>
          rw [applyPart_eq, formOf_of_inlined? inlined]
          have refused : progress.state.refuse.rootValues = progress.state.rootValues := by
            unfold Expansion.refuse
            split <;> rfl
          have kept := grows.moved progress refused
          simpa [applyTemplate] using kept
  | succ deeper inductionHypothesis =>
      unfold stagesOf
      cases inlined : inlined? environment.lexicon part with
      | none =>
          have added := List.prefix_iff_eq_append.1 (grows.part (deeper + 1) progress inlined)
          simp [Stage.adds, added]
      | some parts =>
          let start : Progress := { progress with state := progress.state.deepen }
          let inside := applyInside environment deeper parts start
          have along : view inside = view start ++
              (stagesAlong (stagesOf environment deeper) (applyPart environment deeper) parts
                start).flatMap (Stage.adds view) :=
            view_stagesAlong inductionHypothesis parts start
          have entered : view start = view progress := grows.moved progress rfl
          have left : view { inside with state := inside.state.leave } = view inside :=
            grows.moved inside rfl
          rw [applyPart_eq, formOf_of_inlined? inlined]
          show view { inside with state := inside.state.leave } = _
          rw [left, along, entered]

theorem AppendOnly.view_progressOf
    (grows : AppendOnly environment view)
    (ceiling : Nat)
    {className : Text}
    {parts : List Text}
    (cut : partsOf className = .ok parts) :
    view (progressOf environment ceiling className parts) =
      view ⟨Contribution.start className (!parts.contains Grammar.unimportant),
          Expansion.start className ceiling⟩ ++
        (stages environment ceiling className).flatMap (Stage.adds view) := by
  rw [stages, cut, progressOf, ← applyInside_eq environment _ rfl]
  exact view_stagesAlong (grows.view_applyPart ceiling) _ _

end AppendOnly

/-! ## Root declarations and root values -/

/-- Only a part that gives a root value declares one itself, after all others. -/
theorem rootRules_prefix_applySimple
    (environment : Environment)
    (kind : PartKind)
    (part : Text)
    (progress : Progress) :
    progress.contribution.rootRules <+:
      (applySimple environment kind part progress).contribution.rootRules := by
  cases kind with
  | mediaQuery | containerQuery =>
      simp only [applySimple, confine]
      split <;> exact List.prefix_rfl
  | keyframes | fontFace | target | template => exact List.prefix_rfl
  | customProperty =>
      simp only [applySimple, applyNamed]
      split <;> exact List.prefix_rfl
  | rootValue =>
      simp only [applySimple, applyNamed]
      split
      · exact List.prefix_rfl
      · exact List.prefix_append _ _
  | declaration =>
      simp only [applySimple, applyDeclaration, applyProperty]
      repeat' split
      all_goals exact List.prefix_rfl

theorem appendOnly_rootRules (environment : Environment) :
    AppendOnly environment fun progress => progress.contribution.rootRules where
  part := by
    intro levels part progress single
    rw [applyPart_eq]
    cases form : formOf environment.lexicon part with
    | blank | unimportant => exact List.prefix_rfl
    | simple kind => exact rootRules_prefix_applySimple environment kind part progress
    | template use =>
        cases use with
        | unknown | declarations | value => exact List.prefix_rfl
        | parts parts => simp [inlined?, form] at single
  moved := fun _ _ _ => rfl

theorem appendOnly_rootValues (environment : Environment) :
    AppendOnly environment fun progress => progress.state.rootValues where
  part := fun levels part progress _ =>
    (leadsTo_applyPart environment levels part progress).rootValues
  moved := fun _ _ same => same

end AtomicCss.ClassName
