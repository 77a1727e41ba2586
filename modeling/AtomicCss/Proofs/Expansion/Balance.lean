import AtomicCss.Expansion

/-!
Contract: computations that come back to the level of nesting they started at.

Owns:
- the relation between the states before and after such a computation;
- balanced computations, and the ways of putting them together;
- the result of a nested computation.

Does not own: which computations are balanced.
-/

namespace AtomicCss.Expansion

/-! ## States -/

/-- A later state of the same expansion, on the same level: nothing recorded is lost, and
a refusal stays on record. -/
structure LeadsTo (before after : Expansion) : Prop where
  origin : after.origin = before.origin
  ceiling : after.ceiling = before.ceiling
  depth : after.depth = before.depth
  limitHit : before.limitHit = true → after.limitHit = true
  rootValues : before.rootValues <+: after.rootValues
  notices : before.notices <+: after.notices

namespace LeadsTo

theorem refl (state : Expansion) : LeadsTo state state :=
  ⟨rfl, rfl, rfl, id, List.prefix_rfl, List.prefix_rfl⟩

theorem trans {first second third : Expansion}
    (left : LeadsTo first second)
    (right : LeadsTo second third) :
    LeadsTo first third where
  origin := right.origin.trans left.origin
  ceiling := right.ceiling.trans left.ceiling
  depth := right.depth.trans left.depth
  limitHit := right.limitHit ∘ left.limitHit
  rootValues := left.rootValues.trans right.rootValues
  notices := left.notices.trans right.notices

/-- A later state can nest as much deeper. -/
theorem levelsLeft {before after : Expansion} (leads : LeadsTo before after) :
    after.levelsLeft = before.levelsLeft := by
  rw [Expansion.levelsLeft, Expansion.levelsLeft, leads.ceiling, leads.depth]

theorem report (state : Expansion) (notice : Notice) : LeadsTo state (state.report notice) :=
  ⟨rfl, rfl, rfl, id, List.prefix_rfl, List.prefix_append _ _⟩

theorem record (state : Expansion) (name value : Text) :
    LeadsTo state (state.record name value) :=
  ⟨rfl, rfl, rfl, id, List.prefix_append _ _, List.prefix_rfl⟩

theorem refuse (state : Expansion) : LeadsTo state state.refuse := by
  unfold Expansion.refuse
  split
  · exact refl state
  · exact ⟨rfl, rfl, rfl, fun _ => rfl, List.prefix_rfl, List.prefix_append _ _⟩

/-- What starts one level deeper and comes back to that level ends on the level of the
state itself after one step up. -/
theorem leave {state after : Expansion} (inside : LeadsTo state.deepen after) :
    LeadsTo state after.leave where
  origin := inside.origin
  ceiling := inside.ceiling
  depth := by
    have deeper : after.depth = state.depth + 1 := inside.depth
    simp [Expansion.leave, deeper]
  limitHit := inside.limitHit
  rootValues := inside.rootValues
  notices := inside.notices

end LeadsTo

/-- What a nested expansion gives. -/
theorem nested_fst
    {α : Type}
    (state : Expansion)
    (fallback : α)
    (body : Expansion → α × Expansion) :
    (state.nested fallback body).1 =
      if state.depth < state.ceiling then (body state.deepen).1 else fallback := by
  unfold Expansion.nested enter
  split <;> rfl

/-! ## Computations -/

/-- Every run of a computation ends on the level that it starts on. -/
def Balanced {α : Type} (body : Expansion → α × Expansion) : Prop :=
  ∀ state, LeadsTo state (body state).2

namespace Balanced

variable {α β : Type}

theorem pure (result : Expansion → α) : Balanced fun state => (result state, state) :=
  LeadsTo.refl

theorem map {body : Expansion → α × Expansion} (balanced : Balanced body) (change : α → β) :
    Balanced fun state => (change (body state).1, (body state).2) :=
  balanced

theorem bind
    {first : Expansion → α × Expansion}
    (next : α → Expansion → β × Expansion)
    (firstBalanced : Balanced first)
    (nextBalanced : ∀ result, Balanced (next result)) :
    Balanced fun state => next (first state).1 (first state).2 :=
  fun state => (firstBalanced state).trans (nextBalanced _ _)

/-- A nested expansion comes back, whether it was entered or refused. -/
theorem nested
    {body : Expansion → α × Expansion}
    (balanced : Balanced body)
    (fallback : α) :
    Balanced fun state => state.nested fallback body := by
  intro state
  unfold Expansion.nested enter
  by_cases room : state.depth < state.ceiling
  · simp only [if_pos room]
    exact (balanced state.deepen).leave
  · simp only [if_neg room]
    exact LeadsTo.refuse state

end Balanced

end AtomicCss.Expansion
