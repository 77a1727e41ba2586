import AtomicCss.Proofs.ClassName.Form
import AtomicCss.Proofs.Selector.Owner

/-!
Contract: the selector of a class name names that class and no other.

Owns:
- the property of a contribution that its selector gives its class name back;
- its preservation by every part, templates included;
- the class name of whatever reading gives.

Does not own: what becomes of selectors in a store.
-/

namespace AtomicCss.ClassName

/-- A contribution is of a class name, and its selector gives that name back. -/
structure Names (className : Text) (contribution : Contribution) : Prop where
  className_eq : contribution.className = className
  owner_eq : Selector.owner contribution.selector = className

/-! ## Parts -/

section Parts

variable {environment : Environment} {body : Text}

/-- A part without a template keeps a contribution of its class, as the part has no two
dashes in a row. -/
theorem names_applySimple
    {part : Text}
    {progress : Progress}
    (kind : PartKind)
    (apart : Text.DashesApart part)
    (names : Names (Grammar.scheme ++ body) progress.contribution) :
    Names (Grammar.scheme ++ body)
      (applySimple environment kind part progress).contribution := by
  refine ⟨(className_applySimple environment part progress kind).trans names.className_eq, ?_⟩
  by_cases target : kind = .target
  · subst target
    have written : Text.DashesApart (part.drop Grammar.target.length) :=
      apart.of_infix (List.drop_suffix _ _).isInfix
    show Selector.owner (Selector.ofTarget _ progress.contribution.className) = _
    rw [names.className_eq]
    exact Selector.owner_ofTarget body written
  · rw [selector_applySimple environment part progress target]
    exact names.owner_eq

/-- By induction on the levels left: only an inlined template reads further parts, and
those are one level deeper. -/
theorem names_applyPart
    {levels : Nat}
    {part : Text}
    {progress : Progress}
    (apart : Text.DashesApart part)
    (names : Names (Grammar.scheme ++ body) progress.contribution) :
    Names (Grammar.scheme ++ body)
      (applyPart environment levels part progress).contribution := by
  induction levels using Nat.strongRecOn generalizing part progress with
  | ind levels inductionHypothesis =>
      rw [applyPart_eq]
      cases form : formOf environment.lexicon part with
      | blank => exact names
      | unimportant => exact ⟨names.className_eq, names.owner_eq⟩
      | simple kind => exact names_applySimple kind apart names
      | template use =>
          cases use with
          | unknown | declarations | value => exact ⟨names.className_eq, names.owner_eq⟩
          | parts parts =>
              obtain ⟨inlined, rfl⟩ := formOf_parts form
              cases levels with
              | zero => exact ⟨names.className_eq, names.owner_eq⟩
              | succ deeper =>
                  refine List.foldlRecOn
                    (motive := fun inner : Progress =>
                      Names (Grammar.scheme ++ body) inner.contribution)
                    (Grammar.parts inlined) _ ⟨names.className_eq, names.owner_eq⟩ ?_
                  intro inner innerNames nested member
                  exact inductionHypothesis deeper (Nat.lt_succ_self deeper)
                    (Grammar.dashesApart_of_mem_parts member) innerNames

end Parts

/-! ## Whole class names -/

theorem names_withRootValues
    {className : Text}
    {progress : Progress}
    (names : Names className progress.contribution) :
    Names className (withRootValues progress) := by
  refine List.foldlRecOn (motive := Names className) progress.state.rootValues _ names ?_
  intro contribution current root member
  exact ⟨current.className_eq, current.owner_eq⟩

/-- Whatever a class name contributes, the selector gives the class name back. -/
theorem names_of_contribution?
    {environment : Environment}
    {ceiling : Nat}
    {className : Text}
    {contribution : Contribution}
    (found : contribution? environment ceiling className = some contribution) :
    Names className contribution := by
  obtain ⟨parts, cut, rfl⟩ := contribution?_eq_some found
  obtain ⟨body, rfl, rfl⟩ := partsOf_eq_ok cut
  refine names_withRootValues ?_
  refine List.foldlRecOn
    (motive := fun progress : Progress =>
      Names (Grammar.scheme ++ body) progress.contribution)
    ((Grammar.parts body).filter fun part => part ≠ Grammar.unimportant) _ ?_ ?_
  · exact ⟨rfl, Selector.owner_ofClass body⟩
  · intro progress names part member
    exact names_applyPart
      (Grammar.dashesApart_of_mem_parts (List.mem_filter.1 member).1) names

end AtomicCss.ClassName
