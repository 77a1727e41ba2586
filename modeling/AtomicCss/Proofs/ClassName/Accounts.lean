import AtomicCss.Proofs.ClassName.Values

/-!
Contract: the depth of an expansion all the way through the reading of values and parts.

Owns:
- the calls that a part makes on the state of an expansion, and those of parts one after the
  other;
- that they lead to the state that reading the parts leaves;
- the account that every reader of values and parts gives of the state.

Does not own: what a single call keeps.

## What is said about states that nothing follows

A template whose arguments cannot be counted is one of the calls, and in a run there are further
calls after it.  The account of a run that ends there is that of its front part, and what is said
about all calls is said about every front part of them.
-/

namespace AtomicCss.ClassName

open Expansion

/-! ## Calls -/

/-- The calls of parts that are read one after the other, given those of each. -/
def callsAlong (calls : Text → Expansion → List Call) : List Text → Expansion → List Call
  | [], _ => []
  | part :: others, state =>
      let first := calls part state
      first ++ callsAlong calls others (state.run first)

/-- The calls of a part when expansions can nest `levels` deeper. -/
def partCalls (environment : Environment) (levels : Nat) (part : Text) (state : Expansion) :
    List Call :=
  match inlined? environment.lexicon part with
  | none => Value.callsAll environment.ambient (valuesOf environment.lexicon part) state
  | some parts =>
      match levels with
      | 0 => [.enter]
      | deeper + 1 => state.nestedCalls (callsAlong (partCalls environment deeper) parts)

variable (environment : Environment)

theorem run_callsAlong
    {calls : Text → Expansion → List Call}
    {levels : Nat}
    (step :
      ∀ (part : Text) (contribution : Contribution) (state : Expansion),
        state.levelsLeft = levels →
          state.run (calls part state) = (partEffect environment part contribution state).2)
    (parts : List Text)
    (contribution : Contribution)
    {state : Expansion}
    (left : state.levelsLeft = levels) :
    state.run (callsAlong calls parts state) =
      (partsEffect environment parts contribution state).2 := by
  induction parts generalizing contribution state with
  | nil => rfl
  | cons part others inductionHypothesis =>
      have after := (balanced_partEffect environment part contribution state).levelsLeft
      rw [callsAlong, run_append, step part contribution state left]
      exact inductionHypothesis _ (after.trans left)

/-- A part that does not stand for others makes the calls of its values. -/
theorem run_partCalls_of_single
    {part : Text}
    (single : inlined? environment.lexicon part = none)
    (levels : Nat)
    (contribution : Contribution)
    (state : Expansion) :
    state.run (partCalls environment levels part state) =
      (partEffect environment part contribution state).2 := by
  have read := state_applyPart environment part ⟨contribution, state⟩ single state.levelsLeft
  unfold partCalls
  rw [single]
  exact (Value.run_callsAll _ _ state).trans read.symm

/-- By induction on the levels that are left: a template that is a class of its own makes the
calls of a nested expansion, and its parts make theirs one level deeper. -/
theorem run_partCalls
    (levels : Nat)
    (part : Text)
    (contribution : Contribution)
    (state : Expansion)
    (left : state.levelsLeft = levels) :
    state.run (partCalls environment levels part state) =
      (partEffect environment part contribution state).2 := by
  induction levels generalizing part contribution state with
  | zero =>
      cases inlined : inlined? environment.lexicon part with
      | none => exact run_partCalls_of_single environment inlined 0 contribution state
      | some parts =>
          have full : ¬ state.depth < state.ceiling := by
            rw [depth_lt_ceiling_iff, left]
            exact Nat.lt_irrefl 0
          rw [partEffect_parts environment (formOf_of_inlined? inlined), partCalls, inlined]
          unfold Expansion.nested enter
          simp only [if_neg full]
          exact call_enter_of_not_lt full
  | succ deeper inductionHypothesis =>
      cases inlined : inlined? environment.lexicon part with
      | none =>
          exact run_partCalls_of_single environment inlined (deeper + 1) contribution state
      | some parts =>
          rw [partEffect_parts environment (formOf_of_inlined? inlined), partCalls, inlined]
          refine run_nestedCalls ?_ contribution
          intro room
          apply run_callsAlong environment inductionHypothesis
          rw [levelsLeft_deepen, left, Nat.add_sub_cancel]

/-- The calls of all parts lead to the state that is left after the last one. -/
theorem run_partsCalls
    (parts : List Text)
    (contribution : Contribution)
    (state : Expansion) :
    state.run (callsAlong (partCalls environment state.levelsLeft) parts state) =
      (partsEffect environment parts contribution state).2 :=
  run_callsAlong environment (run_partCalls environment state.levelsLeft) parts contribution rfl

/-! ## Accounts -/

/-- Whatever is read in a state, there are calls that account for it. -/
structure Accounted (environment : Environment) (state : Expansion) : Prop where
  token :
    ∀ token,
      let value := environment.lexicon.read false token
      Accounts (value.calls environment.ambient state) state
        (environment.resolve token state).2
  sequence :
    ∀ text,
      let values := environment.lexicon.readSequence text
      Accounts (Value.callsAll environment.ambient values state) state
        (environment.resolveText text state).2
  consumed :
    ∀ cursor consumed,
      environment.consume? cursor state = some consumed →
        ∃ chunk,
          environment.lexicon.consume? cursor = some (chunk, consumed.remaining) ∧
          Accounts ((environment.lexicon.readChunk chunk).calls environment.ambient state) state
            consumed.state
  keyframes :
    ∀ part,
      let values := Keyframes.valuesOf environment.lexicon part
      Accounts (Value.callsAll environment.ambient values state) state
        (Keyframes.read? environment part state).2
  fontFace :
    ∀ part,
      let values := FontFace.valuesOf environment.lexicon part
      Accounts (Value.callsAll environment.ambient values state) state
        (FontFace.read? environment part state).2
  part :
    ∀ part contribution,
      Accounts (partCalls environment state.levelsLeft part state) state
        (applyPart environment state.levelsLeft part ⟨contribution, state⟩).state

theorem accounts_calls
    (value : Value)
    {state : Expansion}
    (room : state.depth ≤ state.ceiling) :
    Accounts (value.calls environment.ambient state) state
      (value.eval environment.ambient state).2 :=
  Accounts.of_leadsTo room (Value.run_calls environment.ambient value state)
    ((Value.uniform_eval environment.ambient value).balanced state)

theorem accounted {state : Expansion} (room : state.depth ≤ state.ceiling) :
    Accounted environment state where
  token := fun token => accounts_calls environment (environment.lexicon.read false token) room
  sequence := fun text =>
    Value.accounts_callsAll environment.ambient (environment.lexicon.readSequence text) room
  consumed := by
    intro cursor consumed found
    rw [environment.consume?_eq, Option.map_eq_some_iff] at found
    obtain ⟨⟨chunk, remaining⟩, taken, rfl⟩ := found
    exact ⟨chunk, taken, accounts_calls environment (environment.lexicon.readChunk chunk) room⟩
  keyframes := by
    intro part values
    rw [Keyframes.state_read?]
    exact Value.accounts_callsAll environment.ambient values room
  fontFace := by
    intro part values
    rw [FontFace.state_read?]
    exact Value.accounts_callsAll environment.ambient values room
  part := fun part contribution =>
    Accounts.of_leadsTo room
      (run_partCalls environment state.levelsLeft part contribution state rfl)
      (leadsTo_applyPart environment state.levelsLeft part ⟨contribution, state⟩)

/-- The warning of a whole expansion is given once if a step deeper was refused in it, and not
at all otherwise. -/
theorem warnings_progressOf (ceiling : Nat) (className : Text) (parts : List Text) :
    let last := (progressOf environment ceiling className parts).state
    last.warnings = if last.limitHit then [.ceilingReached ceiling className] else [] := by
  intro last
  let first := Expansion.start className ceiling
  let kept := parts.filter fun part => part ≠ Grammar.unimportant
  let calls := callsAlong (partCalls environment first.levelsLeft) kept first
  have run : first.run calls = last := run_partsCalls environment kept _ first
  have proceeds : Proceeds first last := by
    rw [← run]
    exact proceeds_run first calls
  have given : last.warnings = newWarnings first last := proceeds.warnings
  rw [given, newWarnings]
  cases last.limitHit <;> rfl

/-- Below its ceiling an expansion comes back to its depth after every value and every part.
Until then it does not go above the ceiling, keeps its class, its ceiling, the record of a
refusal and the root values before it, and warns of the first refusal alone.  A whole class name
is warned of at most once. -/
theorem depth_accounted
    {state : Expansion}
    (room : state.depth ≤ state.ceiling) :
    Accounted environment state ∧
      ∀ (ceiling : Nat) (className : Text) (parts : List Text),
        let last := (progressOf environment ceiling className parts).state
        last.depth = 0 ∧
          last.warnings = if last.limitHit then [.ceilingReached ceiling className] else [] := by
  refine ⟨accounted environment room, ?_⟩
  intro ceiling className parts last
  have balanced := balanced_partsEffect environment
    (parts.filter fun part => part ≠ Grammar.unimportant)
    (Contribution.start className (!parts.contains Grammar.unimportant))
  exact ⟨(balanced (Expansion.start className ceiling)).depth,
    warnings_progressOf environment ceiling className parts⟩

/-- One level deep, where only one more can be entered. -/
theorem depth_accounted_palette :
    let state := (Expansion.start "cssf--tpl-box_red".toList 2).deepen
    state.depth ≤ state.ceiling ∧ Accounted palette state ∧
      (progressOf palette 2 "cssf--tpl-box_red".toList ["tpl-box_red".toList]).state.depth = 0 := by
  intro state
  have room : state.depth ≤ state.ceiling := by decide
  obtain ⟨accounts, whole⟩ := depth_accounted palette room
  exact ⟨room, accounts, (whole 2 _ _).1⟩

end AtomicCss.ClassName
