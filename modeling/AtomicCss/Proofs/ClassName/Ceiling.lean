import AtomicCss.Proofs.ClassName.Uniform

/-!
Contract: parts do not feel the ceiling until they reach it.

Owns:
- what parts do to the state of an expansion, as a computation;
- its balance: every part comes back to the level that it starts on;
- templates that are classes of their own, as nested expansions of their parts;
- the independence of all parts from the ceiling.

Does not own: how single parts and values are read.
-/

namespace AtomicCss.ClassName

open Expansion

variable (environment : Environment)

/-! ## Effects -/

/-- What a part does to a state, beginning with a contribution. -/
def partEffect (part : Text) : Contribution → Expansion → Contribution × Expansion :=
  effectOf fun progress => applyPart environment progress.state.levelsLeft part progress

/-- What parts do to a state one after the other, beginning with a contribution. -/
def partsEffect (parts : List Text) : Contribution → Expansion → Contribution × Expansion :=
  effectOf (applyParts environment parts)

/-- What a part does depends on its form. -/
theorem partEffect_eq (part : Text) :
    partEffect environment part = effectOf fun progress =>
      match formOf environment.lexicon part with
      | .blank => progress
      | .unimportant => progress.update relax
      | .simple kind => applySimple environment kind part progress
      | .template use => applyTemplate environment progress.state.levelsLeft use progress := by
  unfold partEffect
  congr 1
  funext progress
  exact applyPart_eq environment progress.state.levelsLeft part progress

theorem partsEffect_append
    (first second : List Text)
    (contribution : Contribution)
    (state : Expansion) :
    partsEffect environment (first ++ second) contribution state =
      partsEffect environment second (partsEffect environment first contribution state).1
        (partsEffect environment first contribution state).2 := by
  simp only [partsEffect, effectOf, applyParts, List.foldl_append]

/-! ## Balance -/

/-- By induction on the levels left: only an inlined template goes deeper, and it comes
back after its last part. -/
theorem leadsTo_applyPart (levels : Nat) (part : Text) (progress : Progress) :
    LeadsTo progress.state (applyPart environment levels part progress).state := by
  induction levels using Nat.strongRecOn generalizing part progress with
  | ind levels inductionHypothesis =>
      rw [applyPart_eq]
      cases formOf environment.lexicon part with
      | blank => exact LeadsTo.refl _
      | unimportant => exact LeadsTo.refl _
      | simple kind =>
          exact (uniform_applySimple environment kind part progress.contribution).balanced
            progress.state
      | template use =>
          cases use with
          | unknown => exact LeadsTo.refl _
          | declarations => exact LeadsTo.refl _
          | value template arguments =>
              exact (environment.uniform_resolveEach arguments).balanced progress.state
          | parts parts =>
              cases levels with
              | zero => exact LeadsTo.refuse progress.state
              | succ deeper =>
                  refine LeadsTo.leave ?_
                  refine List.foldlRecOn
                    (motive := fun inner : Progress =>
                      LeadsTo progress.state.deepen inner.state)
                    parts _ (LeadsTo.refl _) ?_
                  intro inner leads nested _
                  exact leads.trans
                    (inductionHypothesis deeper (Nat.lt_succ_self deeper) nested inner)

theorem balanced_partEffect (part : Text) (contribution : Contribution) :
    Balanced (partEffect environment part contribution) :=
  fun state => leadsTo_applyPart environment state.levelsLeft part ⟨contribution, state⟩

theorem balanced_partsEffect (parts : List Text) (contribution : Contribution) :
    Balanced (partsEffect environment parts contribution) := by
  induction parts generalizing contribution with
  | nil => exact Balanced.pure fun _ => contribution
  | cons part others inductionHypothesis =>
      exact (balanced_partEffect environment part contribution).bind
        (partsEffect environment others) inductionHypothesis

/-- As every part comes back to the level it starts on, the levels that are left stay the
same from part to part. -/
theorem applyInside_eq
    (parts : List Text)
    {levels : Nat}
    {progress : Progress}
    (left : progress.state.levelsLeft = levels) :
    applyInside environment levels parts progress = applyParts environment parts progress := by
  induction parts generalizing progress with
  | nil => rfl
  | cons part others inductionHypothesis =>
      have after := (leadsTo_applyPart environment levels part progress).levelsLeft
      rw [applyInside, applyParts, List.foldl_cons, List.foldl_cons, left]
      exact inductionHypothesis (after.trans left)

/-! ## Templates that are classes of their own -/

/-- Such a template is a nested expansion of its parts. -/
theorem partEffect_parts
    {part : Text}
    {parts : List Text}
    (form : formOf environment.lexicon part = .template (.parts parts))
    (contribution : Contribution) :
    partEffect environment part contribution = fun state =>
      state.nested contribution (partsEffect environment parts contribution) := by
  funext state
  rw [partEffect_eq, form]
  unfold effectOf Expansion.nested enter
  by_cases room : state.depth < state.ceiling
  · obtain ⟨deeper, left⟩ : ∃ deeper, state.levelsLeft = deeper + 1 :=
      ⟨state.levelsLeft - 1, by have := (depth_lt_ceiling_iff state).1 room; omega⟩
    have inside : state.deepen.levelsLeft = deeper := by
      rw [levelsLeft_deepen, left, Nat.add_sub_cancel]
    simp only [if_pos room, applyTemplate, left]
    rw [applyInside_eq environment parts inside]
    rfl
  · have left : state.levelsLeft = 0 := by
      have full := mt (depth_lt_ceiling_iff state).2 room
      omega
    simp only [if_neg room, applyTemplate, left]
    rfl

/-! ## The ceiling -/

/-- Reading parts hits the ceiling: started without a refusal on record, it ends with one. -/
def PartsHitCeiling (parts : List Text) (progress : Progress) : Prop :=
  (applyParts environment parts
    { progress with state := progress.state.cleared }).state.limitHit = true

theorem partsHitCeiling_iff (parts : List Text) (contribution : Contribution) (state : Expansion) :
    PartsHitCeiling environment parts ⟨contribution, state⟩ ↔
      Refuses (partsEffect environment parts contribution) state :=
  Iff.rfl

/-- A part does not feel the ceiling when the parts of its template do not, one level
deeper. -/
theorem free_partEffect
    {part : Text}
    {contribution : Contribution}
    {state : Expansion}
    (free : ∀ parts, formOf environment.lexicon part = .template (.parts parts) →
      state.depth < state.ceiling →
      CeilingFree (partsEffect environment parts contribution) state.deepen) :
    CeilingFree (partEffect environment part contribution) state := by
  cases form : formOf environment.lexicon part with
  | blank =>
      rw [partEffect_eq, form]
      exact CeilingFree.pure fun _ => contribution
  | unimportant =>
      rw [partEffect_eq, form]
      exact CeilingFree.pure fun _ => relax contribution
  | simple kind =>
      rw [partEffect_eq, form]
      exact (uniform_applySimple environment kind part contribution).free state
  | template use =>
      cases use with
      | unknown =>
          rw [partEffect_eq, form]
          exact CeilingFree.pure fun _ => contribution
      | declarations declarations =>
          rw [partEffect_eq, form]
          exact CeilingFree.pure fun _ => contribution.declare declarations
      | value template arguments =>
          rw [partEffect_eq, form]
          exact ((environment.uniform_resolveEach arguments).free state).map fun resolved =>
            contribution.declare [template.substitute resolved]
      | parts parts =>
          rw [partEffect_parts environment form]
          exact CeilingFree.nested contribution (free parts form)

/-- By induction on the levels left, and for each number of them on the parts: the parts of
a template start with one level less, the parts after it with as many as it does. -/
theorem free_partsEffect (parts : List Text) (contribution : Contribution) (state : Expansion) :
    CeilingFree (partsEffect environment parts contribution) state := by
  induction bound : state.levelsLeft using Nat.strongRecOn
    generalizing parts contribution state with
  | ind levels deeper =>
      induction parts generalizing contribution state with
      | nil => exact CeilingFree.pure fun _ => contribution
      | cons part others inductionHypothesis =>
          have nested : ∀ inside, state.depth < state.ceiling →
              CeilingFree (partsEffect environment inside contribution) state.deepen := by
            intro inside room
            have left := (depth_lt_ceiling_iff state).1 room
            have less : state.deepen.levelsLeft < levels := by
              rw [levelsLeft_deepen, ← bound]
              omega
            exact deeper _ less inside contribution state.deepen rfl
          have first : CeilingFree (partEffect environment part contribution) state :=
            free_partEffect environment fun inside _ => nested inside
          exact first.bind (partsEffect environment others)
            (balanced_partsEffect environment others)
            fun result after _ left => inductionHypothesis result after (left.trans bound)

end AtomicCss.ClassName
