import AtomicCss.Proofs.ClassName.Ceiling

/-!
Contract: below the ceiling a template that is a class of its own is its parts, written in
its place.

Owns:
- the effect of such a template below the ceiling;
- the inlining of a template anywhere among the parts of a class name.

Does not own: the ceiling itself.
-/

namespace AtomicCss.ClassName

open Expansion

/-! ## Inlining -/

variable (environment : Environment)

/-- Where it does not hit the ceiling, a template does what its parts do on the level of the
template itself. -/
theorem partEffect_inlined
    {part : Text}
    {parts : List Text}
    {contribution : Contribution}
    {state : Expansion}
    (form : formOf environment.lexicon part = .template (.parts parts))
    (fits : ¬ Refuses (partEffect environment part contribution) state) :
    partEffect environment part contribution state =
      partsEffect environment parts contribution state := by
  rw [partEffect_parts environment form] at fits ⊢
  exact CeilingFree.nested_eq
    (fun _ => free_partsEffect environment parts contribution state.deepen) fits

/-- Whatever parts stand before and after a template that is a class of its own, and from
whatever progress they start: unless the ceiling is hit, they come to the same as with the
parts of the template in its place.  The progress is the contribution with its selector, its
declarations and its at-rule, and the state with the root values recorded and the depth. -/
theorem applyParts_inlined
    (before after : List Text)
    {part body : Text}
    {template : Template}
    (marked : Text.startsWith Grammar.template part = true)
    (known :
      environment.lexicon.templates.get? (nameAfter Grammar.template part) = some template)
    (expanded : template.substitute (rawArguments part) = Grammar.scheme ++ body)
    (progress : Progress)
    (fits : ¬ PartsHitCeiling environment (before ++ [part] ++ after) progress) :
    applyParts environment (before ++ [part] ++ after) progress =
      applyParts environment (before ++ Grammar.parts body ++ after) progress := by
  obtain ⟨contribution, state⟩ := progress
  have form := formOf_template marked known expanded
  -- What is read before the template is the same on both sides.
  have sequence (inner : List Text) :
      partsEffect environment (before ++ inner ++ after) contribution = fun state =>
        let start := partsEffect environment before contribution state
        partsEffect environment (inner ++ after) start.1 start.2 := by
    funext state
    rw [List.append_assoc, partsEffect_append]
  rw [partsHitCeiling_iff, sequence] at fits
  let start := partsEffect environment before contribution state
  have restFits : ¬ Refuses (partsEffect environment ([part] ++ after) start.1) start.2 :=
    (CeilingFree.fits_of_bind (free_partsEffect environment before contribution state)
      (balanced_partsEffect environment _) fits).2
  have partFits : ¬ Refuses (partEffect environment part start.1) start.2 :=
    (CeilingFree.fits_of_bind (free_partsEffect environment [part] start.1 start.2)
      (balanced_partsEffect environment after) restFits).1
  have inlined := partEffect_inlined environment form partFits
  have same : partsEffect environment (before ++ [part] ++ after) contribution state =
      partsEffect environment (before ++ Grammar.parts body ++ after) contribution state := by
    rw [sequence, sequence]
    show partsEffect environment ([part] ++ after) start.1 start.2 =
      partsEffect environment (Grammar.parts body ++ after) start.1 start.2
    rw [partsEffect_append, partsEffect_append]
    show partsEffect environment after (partEffect environment part start.1 start.2).1
      (partEffect environment part start.1 start.2).2 = _
    rw [inlined]
  exact congrArg (fun effect => Progress.mk effect.1 effect.2) same

theorem applyParts_inlined_box :
    ¬ PartsHitCeiling palette
      (["tpl-red".toList] ++ ["tpl-box_red".toList] ++ ["tpl-red".toList]) Palette.start ∧
    applyParts palette
        (["tpl-red".toList] ++ ["tpl-box_red".toList] ++ ["tpl-red".toList]) Palette.start =
      applyParts palette
        (["tpl-red".toList] ++ Grammar.parts "tpl-red--ni".toList ++ ["tpl-red".toList])
        Palette.start := by
  have fits : ¬ PartsHitCeiling palette
      (["tpl-red".toList] ++ ["tpl-box_red".toList] ++ ["tpl-red".toList]) Palette.start := by
    unfold PartsHitCeiling applyParts
    simp only [List.cons_append, List.nil_append, List.foldl_cons, List.foldl_nil,
      Palette.applyPart_red, Palette.applyPart_box]
    decide
  exact ⟨fits, applyParts_inlined palette _ _ (by rfl) Palette.box_known Palette.box_expanded
    Palette.start fits⟩

end AtomicCss.ClassName
