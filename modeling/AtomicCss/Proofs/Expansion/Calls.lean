import AtomicCss.Proofs.Expansion.Balance

/-!
Contract: the calls that a computation makes on the state of an expansion.

Owns:
- the calls, what one of them does to a state, and what a run of them does;
- what every call keeps, whether calls are balanced or not;
- the calls of a nested expansion;
- calls that account for the change from one state to another.

Does not own: which calls a computation makes.

## Why calls and not only the states at the ends

That a computation ends on the level it starts on says nothing about the levels it visits.  Calls
are the only way in which the state of an expansion changes.  So what holds after every front
part of a list of calls holds all the way.
-/

namespace AtomicCss

/-- The warning that an expansion reached its ceiling. -/
def Notice.isCeilingReached : Notice → Bool
  | .ceilingReached .. => true
  | _ => false

namespace Expansion

/-! ## Calls -/

/-- What a computation can do to the state of an expansion. -/
inductive Call where
  /-- Ask to go one level deeper. -/
  | enter
  | leave
  | record (name value : Text)
  /-- Report a template whose arguments cannot be counted. -/
  | outOfRange
deriving DecidableEq, Repr

/-- The state after a call. -/
def call (state : Expansion) : Call → Expansion
  | .enter => state.enter.2
  | .leave => state.leave
  | .record name value => state.record name value
  | .outOfRange => state.report (.outOfRange state.origin)

theorem call_enter_of_lt {state : Expansion} (room : state.depth < state.ceiling) :
    state.call .enter = state.deepen := by
  rw [call, enter, if_pos room]

theorem call_enter_of_not_lt {state : Expansion} (full : ¬ state.depth < state.ceiling) :
    state.call .enter = state.refuse := by
  rw [call, enter, if_neg full]

/-- The state after calls that are made one after the other. -/
def run (state : Expansion) (calls : List Call) : Expansion :=
  calls.foldl call state

theorem run_cons (state : Expansion) (first : Call) (others : List Call) :
    state.run (first :: others) = (state.call first).run others :=
  rfl

theorem run_append (state : Expansion) (first second : List Call) :
    state.run (first ++ second) = (state.run first).run second :=
  List.foldl_append

/-! ## What every call keeps -/

/-- The warnings given so far. -/
def warnings (state : Expansion) : List Notice :=
  state.notices.filter Notice.isCeilingReached

/-- The warnings that are due when a refusal gets on record. -/
def newWarnings (before after : Expansion) : List Notice :=
  if before.limitHit = false ∧ after.limitHit = true then
    [.ceilingReached before.ceiling before.origin]
  else
    []

/-- A later state of the same expansion, on whatever level: a refusal stays on record and is
warned of when it gets there, and no recorded root value is lost. -/
structure Proceeds (before after : Expansion) : Prop where
  origin : after.origin = before.origin
  ceiling : after.ceiling = before.ceiling
  limitHit : before.limitHit = true → after.limitHit = true
  rootValues : before.rootValues <+: after.rootValues
  warnings : after.warnings = before.warnings ++ newWarnings before after

/-- A state that differs in depth only. -/
theorem Proceeds.moved (state : Expansion) (depth : Nat) :
    Proceeds state { state with depth := depth } where
  origin := rfl
  ceiling := rfl
  limitHit := id
  rootValues := List.prefix_rfl
  warnings := by simp [newWarnings, Expansion.warnings]

theorem Proceeds.refl (state : Expansion) : Proceeds state state :=
  Proceeds.moved state state.depth

theorem Proceeds.trans
    {first second third : Expansion}
    (left : Proceeds first second)
    (right : Proceeds second third) :
    Proceeds first third where
  origin := right.origin.trans left.origin
  ceiling := right.ceiling.trans left.ceiling
  limitHit := right.limitHit ∘ left.limitHit
  rootValues := left.rootValues.trans right.rootValues
  warnings := by
    have due : newWarnings first second ++ newWarnings second third = newWarnings first third := by
      unfold newWarnings
      rw [left.origin, left.ceiling]
      -- Of the two steps at most one gets a refusal on record.
      cases before : first.limitHit with
      | true => simp [left.limitHit before]
      | false =>
          cases middle : second.limitHit with
          | true => simp [right.limitHit middle]
          | false => simp
    rw [right.warnings, left.warnings, List.append_assoc, due]

theorem Proceeds.refuse (state : Expansion) : Proceeds state state.refuse := by
  cases hit : state.limitHit with
  | true =>
      have same : state.refuse = state := by rw [Expansion.refuse, if_pos hit]
      rw [same]
      exact Proceeds.refl state
  | false =>
      have reported : state.refuse =
          { state.report (.ceilingReached state.ceiling state.origin) with limitHit := true } := by
        rw [Expansion.refuse, if_neg (by simp [hit])]
      rw [reported]
      refine ⟨rfl, rfl, fun _ => rfl, List.prefix_rfl, ?_⟩
      simp [Expansion.warnings, newWarnings, report, hit, Notice.isCeilingReached]

theorem proceeds_call (state : Expansion) (call : Call) : Proceeds state (state.call call) := by
  cases call with
  | enter =>
      by_cases room : state.depth < state.ceiling
      · rw [call_enter_of_lt room]
        exact Proceeds.moved state (state.depth + 1)
      · rw [call_enter_of_not_lt room]
        exact Proceeds.refuse state
  | leave => exact Proceeds.moved state (state.depth - 1)
  | record name value =>
      refine ⟨rfl, rfl, id, List.prefix_append _ _, ?_⟩
      simp [Expansion.warnings, newWarnings, Expansion.call, Expansion.record]
  | outOfRange =>
      refine ⟨rfl, rfl, id, List.prefix_rfl, ?_⟩
      simp [Expansion.warnings, newWarnings, Expansion.call, report, Notice.isCeilingReached]

/-- No call leads above the ceiling. -/
theorem depth_call_le
    {state : Expansion}
    (room : state.depth ≤ state.ceiling)
    (call : Call) :
    (state.call call).depth ≤ state.ceiling := by
  cases call with
  | enter =>
      by_cases below : state.depth < state.ceiling
      · rw [call_enter_of_lt below]
        exact below
      · rw [call_enter_of_not_lt below, (LeadsTo.refuse state).depth]
        exact room
  | leave => exact Nat.le_trans (Nat.sub_le _ _) room
  | record | outOfRange => exact room

theorem proceeds_run (state : Expansion) (calls : List Call) :
    Proceeds state (state.run calls) := by
  induction calls generalizing state with
  | nil => exact Proceeds.refl state
  | cons first others inductionHypothesis =>
      exact (proceeds_call state first).trans (inductionHypothesis (state.call first))

theorem depth_run_le
    {state : Expansion}
    (room : state.depth ≤ state.ceiling)
    (calls : List Call) :
    (state.run calls).depth ≤ state.ceiling := by
  induction calls generalizing state with
  | nil => exact room
  | cons first others inductionHypothesis =>
      have same := (proceeds_call state first).ceiling
      rw [run_cons, ← same]
      apply inductionHypothesis
      rw [same]
      exact depth_call_le room first

/-- Where no further level is asked for, no refusal gets on record. -/
theorem limitHit_run {calls : List Call} (absent : Call.enter ∉ calls) (state : Expansion) :
    (state.run calls).limitHit = state.limitHit := by
  induction calls generalizing state with
  | nil => rfl
  | cons first others inductionHypothesis =>
      rw [List.mem_cons, not_or] at absent
      rw [run_cons, inductionHypothesis absent.2]
      cases first with
      | enter => exact absurd rfl absent.1
      | leave | record | outOfRange => rfl

/-! ## Nested expansions -/

/-- The calls of a nested expansion, given those of its body. -/
def nestedCalls (state : Expansion) (inside : Expansion → List Call) : List Call :=
  if state.depth < state.ceiling then
    .enter :: (inside state.deepen ++ [.leave])
  else
    [.enter]

theorem enter_mem_nestedCalls (state : Expansion) (inside : Expansion → List Call) :
    Call.enter ∈ state.nestedCalls inside := by
  unfold nestedCalls
  split <;> exact List.mem_cons_self ..

theorem run_nestedCalls
    {α : Type}
    {body : Expansion → α × Expansion}
    {inside : Expansion → List Call}
    {state : Expansion}
    (along :
      state.depth < state.ceiling → state.deepen.run (inside state.deepen) = (body state.deepen).2)
    (fallback : α) :
    state.run (state.nestedCalls inside) = (state.nested fallback body).2 := by
  unfold nestedCalls nested enter
  by_cases room : state.depth < state.ceiling
  · simp only [if_pos room]
    rw [run_cons, call_enter_of_lt room, run_append, along room]
    rfl
  · simp only [if_neg room]
    exact call_enter_of_not_lt room

/-! ## Accounts -/

/-- The calls lead from one state to the other, which is on the same level.  All the way there
the expansion stays below its ceiling and loses nothing. -/
structure Accounts (calls : List Call) (before after : Expansion) : Prop where
  run : before.run calls = after
  depth : after.depth = before.depth
  throughout :
    ∀ early, early <+: calls →
      Proceeds before (before.run early) ∧ (before.run early).depth ≤ before.ceiling

theorem Accounts.of_leadsTo
    {before after : Expansion}
    {calls : List Call}
    (room : before.depth ≤ before.ceiling)
    (run : before.run calls = after)
    (leads : LeadsTo before after) :
    Accounts calls before after where
  run := run
  depth := leads.depth
  throughout := fun early _ => ⟨proceeds_run before early, depth_run_le room early⟩

end Expansion

end AtomicCss
