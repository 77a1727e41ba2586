import AtomicCss.Proofs.Expansion.Balance

/-!
Contract: computations on which the ceiling has no effect until it is reached.

Owns:
- when a computation is refused a step deeper;
- the property of a computation to do the same to every state with at least as many
  levels left, unless it is refused a step deeper;
- uniform computations, which are balanced and have the property in every state, and the
  ways of putting them together.

Does not own: which computations have the property.

## Why the state is cleared

A refusal is recorded in the state, and a state that a computation starts in may have one on
record already.  Whether the computation itself is refused shows only when it starts without
one.  As nothing in it reads the record but the refusal, which reports the first time only,
the runs with and without the record are otherwise the same, and the property speaks about
every state at once, with a record or without.
-/

namespace AtomicCss.Expansion

/-! ## States -/

/-- The state without the record of a refusal. -/
def cleared (state : Expansion) : Expansion :=
  { state with limitHit := false }

/-- The state with further root values and notices. -/
def extend (state : Expansion) (rootValues : List RootValue) (notices : List Notice) :
    Expansion :=
  { state with
    rootValues := state.rootValues ++ rootValues
    notices := state.notices ++ notices }

theorem extend_nil (state : Expansion) : state.extend [] [] = state := by
  simp [extend]

theorem extend_extend
    (state : Expansion)
    (rootValues rootValues' : List RootValue)
    (notices notices' : List Notice) :
    (state.extend rootValues notices).extend rootValues' notices' =
      state.extend (rootValues ++ rootValues') (notices ++ notices') := by
  simp [extend]

theorem levelsLeft_deepen (state : Expansion) :
    state.deepen.levelsLeft = state.levelsLeft - 1 := by
  simp only [levelsLeft, deepen]
  omega

/-- The ceiling is reached when no levels are left. -/
theorem depth_lt_ceiling_iff (state : Expansion) :
    state.depth < state.ceiling ↔ 0 < state.levelsLeft := by
  simp only [levelsLeft]
  omega

theorem limitHit_refuse (state : Expansion) : state.refuse.limitHit = true := by
  unfold refuse
  split
  · assumption
  · rfl

/-! ## Computations -/

/-- In the course of a computation a step deeper is refused: started without a refusal on
record, it ends with one. -/
def Refuses {α : Type} (body : Expansion → α × Expansion) (state : Expansion) : Prop :=
  (body state.cleared).2.limitHit = true

/-- From a state on, unless it is refused a step deeper, a computation gives one result and
records the same in every state of the same class with at least as many levels left. -/
def CeilingFree {α : Type} (body : Expansion → α × Expansion) (state : Expansion) : Prop :=
  ¬ Refuses body state →
    ∃ result rootValues notices, ∀ other : Expansion,
      other.origin = state.origin → state.levelsLeft ≤ other.levelsLeft →
      body other = (result, other.extend rootValues notices)

namespace CeilingFree

variable {α β : Type} {state : Expansion}

/-- With more levels left a computation is not refused a step deeper either. -/
theorem not_refuses
    {body : Expansion → α × Expansion}
    (free : CeilingFree body state)
    (fits : ¬ Refuses body state)
    {other : Expansion}
    (origin : other.origin = state.origin)
    (room : state.levelsLeft ≤ other.levelsLeft) :
    ¬ Refuses body other := by
  obtain ⟨result, rootValues, notices, same⟩ := free fits
  have cleared := same other.cleared origin room
  unfold Refuses
  rw [cleared]
  simp [extend, Expansion.cleared]

theorem pure (result : Text → α) :
    CeilingFree (fun state => (result state.origin, state)) state := by
  intro _
  refine ⟨result state.origin, [], [], ?_⟩
  intro other origin _
  simp only [origin, extend_nil]

theorem record (name value : Text) (result : α) :
    CeilingFree (fun state => (result, state.record name value)) state :=
  fun _ => ⟨result, [⟨name, value⟩], [], fun _ _ _ => by simp [Expansion.record, extend]⟩

theorem report (notice : Text → Notice) (result : α) :
    CeilingFree (fun state => (result, state.report (notice state.origin))) state := by
  intro _
  refine ⟨result, [], [notice state.origin], ?_⟩
  intro other origin _
  simp [Expansion.report, extend, origin]

theorem map
    {body : Expansion → α × Expansion}
    (free : CeilingFree body state)
    (change : α → β) :
    CeilingFree (fun state => (change (body state).1, (body state).2)) state := by
  intro fits
  obtain ⟨result, rootValues, notices, same⟩ := free fits
  refine ⟨change result, rootValues, notices, ?_⟩
  intro other origin room
  simp only [same other origin room]

/-- Of two computations one after the other that are not refused, the first is not refused
where they start, and the second is not refused where the first ends. -/
theorem fits_of_bind
    {first : Expansion → α × Expansion}
    {next : α → Expansion → β × Expansion}
    (firstFree : CeilingFree first state)
    (nextBalanced : ∀ result, Balanced (next result))
    (fits : ¬ Refuses (fun state => next (first state).1 (first state).2) state) :
    ¬ Refuses first state ∧ ¬ Refuses (next (first state).1) (first state).2 := by
  have firstFits : ¬ Refuses first state := fun refused =>
    fits ((nextBalanced _ _).limitHit refused)
  refine ⟨firstFits, ?_⟩
  intro refused
  apply fits
  obtain ⟨result, rootValues, notices, same⟩ := firstFree firstFits
  have start := same state rfl (Nat.le_refl _)
  have startCleared := same state.cleared rfl (Nat.le_refl _)
  -- The first one ends in the same state, but for the record of a refusal.
  rw [start] at refused
  simp only [Refuses, startCleared]
  exact refused

/-- The second computation starts where the first one ends, on the same level. -/
theorem bind
    {first : Expansion → α × Expansion}
    (next : α → Expansion → β × Expansion)
    (firstFree : CeilingFree first state)
    (nextBalanced : ∀ result, Balanced (next result))
    (nextFree :
      ∀ result (after : Expansion), after.origin = state.origin →
        after.levelsLeft = state.levelsLeft → CeilingFree (next result) after) :
    CeilingFree (fun state => next (first state).1 (first state).2) state := by
  intro fits
  obtain ⟨firstFits, nextFits⟩ := fits_of_bind firstFree nextBalanced fits
  obtain ⟨result, rootValues, notices, same⟩ := firstFree firstFits
  rw [same state rfl (Nat.le_refl _)] at nextFits
  obtain ⟨result', rootValues', notices', same'⟩ :=
    nextFree result (state.extend rootValues notices) rfl rfl nextFits
  refine ⟨result', rootValues ++ rootValues', notices ++ notices', ?_⟩
  intro other origin room
  simp only [same other origin room, ← extend_extend]
  exact same' (other.extend rootValues notices) origin room

/-- A nested expansion that is not refused has a level left for its body, and its body is
not refused there. -/
theorem room_of_nested
    {fallback : α}
    {body : Expansion → α × Expansion}
    (fits : ¬ Refuses (fun state => state.nested fallback body) state) :
    state.depth < state.ceiling ∧ ¬ Refuses body state.deepen := by
  by_cases room : state.depth < state.ceiling
  · refine ⟨room, ?_⟩
    intro refused
    apply fits
    have clearedRoom : state.cleared.depth < state.cleared.ceiling := room
    unfold Refuses Expansion.nested enter
    simp only [if_pos clearedRoom]
    exact refused
  · refine absurd ?_ fits
    have clearedFull : ¬ state.cleared.depth < state.cleared.ceiling := room
    unfold Refuses Expansion.nested enter
    simp only [if_neg clearedFull]
    exact limitHit_refuse state.cleared

/-- A nested expansion that is not refused does what its body does on the level of the
expansion itself. -/
theorem nested_eq
    {fallback : α}
    {body : Expansion → α × Expansion}
    (free : state.depth < state.ceiling → CeilingFree body state.deepen)
    (fits : ¬ Refuses (fun state => state.nested fallback body) state) :
    state.nested fallback body = body state := by
  obtain ⟨room, bodyFits⟩ := room_of_nested fits
  obtain ⟨result, rootValues, notices, same⟩ := free room bodyFits
  have deeper : state.deepen.levelsLeft ≤ state.levelsLeft := by
    rw [levelsLeft_deepen]
    exact Nat.sub_le _ _
  unfold Expansion.nested enter
  simp only [if_pos room]
  rw [same state.deepen rfl (Nat.le_refl _), same state rfl deeper]
  rfl

theorem nested
    {body : Expansion → α × Expansion}
    (fallback : α)
    (free : state.depth < state.ceiling → CeilingFree body state.deepen) :
    CeilingFree (fun state => state.nested fallback body) state := by
  intro fits
  obtain ⟨room, bodyFits⟩ := room_of_nested fits
  obtain ⟨result, rootValues, notices, same⟩ := free room bodyFits
  refine ⟨result, rootValues, notices, ?_⟩
  intro other origin more
  have left := (depth_lt_ceiling_iff state).1 room
  have otherRoom := (depth_lt_ceiling_iff other).2 (by omega)
  have deeper : state.deepen.levelsLeft ≤ other.deepen.levelsLeft := by
    rw [levelsLeft_deepen, levelsLeft_deepen]
    omega
  unfold Expansion.nested enter
  simp only [if_pos otherRoom]
  rw [same other.deepen origin deeper]
  rfl

end CeilingFree

/-! ## Uniform computations -/

/-- A balanced computation that does not feel the ceiling, whatever state it starts in. -/
structure Uniform {α : Type} (body : Expansion → α × Expansion) : Prop where
  balanced : Balanced body
  free : ∀ state, CeilingFree body state

namespace Uniform

variable {α β : Type}

theorem pure (result : Text → α) : Uniform fun state => (result state.origin, state) :=
  ⟨Balanced.pure _, fun _ => CeilingFree.pure result⟩

theorem record (name value : Text) (result : α) :
    Uniform fun state => (result, state.record name value) :=
  ⟨fun state => LeadsTo.record state name value, fun _ => CeilingFree.record name value result⟩

theorem report (notice : Text → Notice) (result : α) :
    Uniform fun state => (result, state.report (notice state.origin)) :=
  ⟨fun state => LeadsTo.report state _, fun _ => CeilingFree.report notice result⟩

theorem map
    {body : Expansion → α × Expansion}
    (uniform : Uniform body)
    (change : α → β) :
    Uniform fun state => (change (body state).1, (body state).2) :=
  ⟨uniform.balanced.map change, fun state => (uniform.free state).map change⟩

theorem bind
    {first : Expansion → α × Expansion}
    (next : α → Expansion → β × Expansion)
    (firstUniform : Uniform first)
    (nextUniform : ∀ result, Uniform (next result)) :
    Uniform fun state => next (first state).1 (first state).2 where
  balanced := firstUniform.balanced.bind next fun result => (nextUniform result).balanced
  free := fun state =>
    (firstUniform.free state).bind next (fun result => (nextUniform result).balanced)
      fun result after _ _ => (nextUniform result).free after

theorem nested
    {body : Expansion → α × Expansion}
    (uniform : Uniform body)
    (fallback : α) :
    Uniform fun state => state.nested fallback body :=
  ⟨uniform.balanced.nested fallback, fun state =>
    CeilingFree.nested fallback fun _ => uniform.free state.deepen⟩

end Uniform

end AtomicCss.Expansion
