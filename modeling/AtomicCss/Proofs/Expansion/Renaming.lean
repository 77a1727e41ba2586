import AtomicCss.Proofs.Expansion.Ceiling

/-!
Contract: computations that do the same for every class name.

Owns:
- relations between computations that pass to computations one after the other;
- a state of an expansion as that of another class name;
- pairs of computations that agree but for the class name, and the ways of putting them
  together.

Does not own: which computations agree.

## Why two computations

A computation that reads its surroundings is another one in other surroundings.  So the question
whether the class name and the surroundings matter is about two computations, each run from the
state of its own class name.
-/

namespace AtomicCss

/-- A notice as it is given about another class name. -/
def Notice.renamed (name : Text) : Notice → Notice
  | .ceilingReached ceiling _ => .ceilingReached ceiling name
  | .outOfRange _ => .outOfRange name
  | .classRejected failure => .classRejected failure
  | .sourceSkipped source reason => .sourceSkipped source reason

namespace Expansion

/-! ## Relations between computations -/

/-- A relation that holds of computations with the same constant result, and of computations
one after the other when it holds of the first ones and, whatever their result, of the second
ones. -/
structure Composable
    (Related : ∀ {α : Type}, (Expansion → α × Expansion) → (Expansion → α × Expansion) → Prop) :
    Prop where
  pure : ∀ {α : Type} (result : α), Related (fun state => (result, state)) fun state =>
    (result, state)
  bind :
    ∀ {α β : Type} {first first' : Expansion → α × Expansion}
      (next next' : α → Expansion → β × Expansion),
      Related first first' → (∀ result, Related (next result) (next' result)) →
        Related (fun state => next (first state).1 (first state).2) fun state =>
          next' (first' state).1 (first' state).2

theorem Composable.map
    {Related : ∀ {α : Type}, (Expansion → α × Expansion) → (Expansion → α × Expansion) → Prop}
    (composable : Composable Related)
    {α β : Type}
    {first first' : Expansion → α × Expansion}
    (related : Related first first')
    (change : α → β) :
    Related (fun state => (change (first state).1, (first state).2)) fun state =>
      (change (first' state).1, (first' state).2) :=
  composable.bind (fun result state => (change result, state))
    (fun result state => (change result, state)) related fun result =>
      composable.pure (change result)

/-- A uniform computation is related to itself in this way. -/
theorem Uniform.composable :
    Composable fun {α : Type} (first second : Expansion → α × Expansion) =>
      first = second ∧ Uniform first where
  pure := fun result => ⟨rfl, Uniform.pure fun _ => result⟩
  bind := by
    rintro α β first _ next next' ⟨rfl, uniform⟩ related
    obtain rfl : next = next' := funext fun result => (related result).1
    exact ⟨rfl, uniform.bind next fun result => (related result).2⟩

/-! ## Another class name -/

/-- The state as that of another class name, also in the notices given so far. -/
def renamed (name : Text) (state : Expansion) : Expansion :=
  { state with
    origin := name
    notices := state.notices.map (Notice.renamed name) }

theorem renamed_deepen (name : Text) (state : Expansion) :
    (state.renamed name).deepen = state.deepen.renamed name :=
  rfl

theorem renamed_report (name : Text) (state : Expansion) (notice : Notice) :
    (state.report notice).renamed name = (state.renamed name).report (notice.renamed name) := by
  simp [report, renamed]

theorem renamed_refuse (name : Text) (state : Expansion) :
    (state.renamed name).refuse = state.refuse.renamed name := by
  unfold refuse
  split
  · rw [if_pos (by assumption)]
  · rw [if_neg (by assumption)]
    simp [report, renamed, Notice.renamed]

/-! ## Agreement -/

/-- Two computations agree but for the class name: from the state as that of another class name
the second one gives the result of the first one, and leaves its state as that of the other
class name. -/
def SameButName {α : Type} (name : Text) (first second : Expansion → α × Expansion) : Prop :=
  ∀ state, second (state.renamed name) = ((first state).1, (first state).2.renamed name)

namespace SameButName

variable {name : Text} {α β : Type}

theorem composable (name : Text) : Composable fun {α : Type} => @SameButName α name where
  pure := fun _ _ => rfl
  bind := by
    intro α β first second next next' same related state
    simp only [same state]
    exact related _ _

theorem record (recorded value : Text) (result : α) :
    SameButName name (fun state => (result, state.record recorded value)) fun state =>
      (result, state.record recorded value) :=
  fun _ => rfl

theorem outOfRange (result : α) :
    SameButName name (fun state => (result, state.report (.outOfRange state.origin)))
      fun state => (result, state.report (.outOfRange state.origin)) := by
  intro state
  rw [renamed_report]
  rfl

/-- Both nested expansions are entered, or both are refused. -/
theorem nested
    {first second : Expansion → α × Expansion}
    (same : SameButName name first second)
    (fallback : α) :
    SameButName name (fun state => state.nested fallback first) fun state =>
      state.nested fallback second := by
  intro state
  unfold Expansion.nested enter
  by_cases room : state.depth < state.ceiling
  · have alike : (state.renamed name).depth < (state.renamed name).ceiling := room
    simp only [if_pos room, if_pos alike, renamed_deepen, same state.deepen]
    rfl
  · have alike : ¬ (state.renamed name).depth < (state.renamed name).ceiling := room
    simp only [if_neg room, if_neg alike, renamed_refuse]
    rfl

end SameButName

end Expansion

end AtomicCss
