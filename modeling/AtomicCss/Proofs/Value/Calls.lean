import AtomicCss.Proofs.Expansion.Calls
import AtomicCss.Proofs.Value.Ceiling

/-!
Contract: the calls on an expansion that resolving values makes.

Owns:
- the calls of a value and of values one after the other;
- that they lead to the state that resolving the values leaves;
- the values that ask for a further level;
- tokens that are resolved one after the other, as values.

Does not own: which values a text or a part is read to.
-/

namespace AtomicCss

open Expansion

namespace Value

variable (ambient : Ambient)

/-! ## Calls -/

mutual

/-- The calls that resolving a value makes, in their order. -/
def calls (ambient : Ambient) : Value → Expansion → List Call
  | .text _, _ | .glue _, _ | .target _, _ => []
  | .quoted _ inner, state => state.nestedCalls (calls ambient inner)
  | .commaList items, state => callsAll ambient items state
  | .rootValue name stream, state =>
      let pieces := evalAll ambient stream state
      callsAll ambient stream state ++ [.record name (Piece.stream pieces.1)]
  | .template _ _ arguments, state => state.nestedCalls (callsAll ambient arguments)
  | .call _ _ arguments trailing, state | .computed _ _ arguments trailing, state =>
      state.nestedCalls fun deeper =>
        let inside := evalAll ambient arguments deeper
        callsAll ambient arguments deeper ++ callsAll ambient trailing inside.2
  | .outOfRange, _ => [.outOfRange]

/-- The calls that resolving values one after the other makes. -/
def callsAll (ambient : Ambient) : List Value → Expansion → List Call
  | [], _ => []
  | value :: others, state =>
      calls ambient value state ++ callsAll ambient others (eval ambient value state).2

end

mutual

/-- By induction on the value: every change of the state is one of the calls. -/
theorem run_calls (ambient : Ambient) :
    ∀ (value : Value) (state : Expansion),
      state.run (value.calls ambient state) = (value.eval ambient state).2
  | .text _, _ | .glue _, _ | .target _, _ | .outOfRange, _ => rfl
  | .quoted source inner, state => by
      show state.run (state.nestedCalls (calls ambient inner)) =
        (state.nested source fun deeper =>
          let content := eval ambient inner deeper
          (Text.quoted content.1, content.2)).2
      refine run_nestedCalls ?_ source
      intro room
      exact run_calls ambient inner state.deepen
  | .commaList items, state => run_callsAll ambient items state
  | .rootValue name stream, state => by
      have values := run_callsAll ambient stream state
      show state.run (callsAll ambient stream state ++
        [.record name (Piece.stream (evalAll ambient stream state).1)]) = _
      rw [run_append, values]
      rfl
  | .template source blueprint arguments, state => by
      show state.run (state.nestedCalls (callsAll ambient arguments)) =
        (state.nested source fun deeper =>
          let pieces := evalAll ambient arguments deeper
          (blueprint.substitute (pieces.1.map Piece.text), pieces.2)).2
      refine run_nestedCalls ?_ source
      intro room
      exact run_callsAll ambient arguments state.deepen
  | .call source name arguments trailing, state => by
      refine run_nestedCalls ?_ source
      intro room
      rw [run_append, run_callsAll ambient arguments state.deepen]
      exact run_callsAll ambient trailing _
  | .computed source function arguments trailing, state => by
      refine run_nestedCalls ?_ source
      intro room
      rw [run_append, run_callsAll ambient arguments state.deepen, run_callsAll ambient trailing]
      dsimp only
      split <;> rfl

theorem run_callsAll (ambient : Ambient) :
    ∀ (values : List Value) (state : Expansion),
      state.run (callsAll ambient values state) = (evalAll ambient values state).2
  | [], _ => rfl
  | value :: others, state => by
      rw [callsAll, run_append, run_calls ambient value state]
      exact run_callsAll ambient others _

end

/-- Below the ceiling the calls of values account for what resolving them does. -/
theorem accounts_callsAll
    (values : List Value)
    {state : Expansion}
    (room : state.depth ≤ state.ceiling) :
    Accounts (callsAll ambient values state) state (evalAll ambient values state).2 :=
  Accounts.of_leadsTo room (run_callsAll ambient values state)
    ((uniform_evalAll ambient values).balanced state)

/-! ## Levels -/

mutual

/-- Resolving the value asks for a further level, in whatever state. -/
def nests : Value → Bool
  | .text _ | .glue _ | .target _ | .outOfRange => false
  | .quoted .. | .template .. | .call .. | .computed .. => true
  | .commaList items => anyNests items
  | .rootValue _ stream => anyNests stream

/-- Resolving one of the values asks for a further level. -/
def anyNests : List Value → Bool
  | [] => false
  | value :: others => nests value || anyNests others

end

mutual

/-- By induction on the value: before the first step deeper nothing depends on the state. -/
theorem enter_mem_calls (ambient : Ambient) :
    ∀ (value : Value) (state : Expansion),
      Call.enter ∈ value.calls ambient state ↔ value.nests = true
  | .text _, _ | .glue _, _ | .target _, _ | .outOfRange, _ => by simp [calls, nests]
  | .quoted .., state | .template .., state | .call .., state | .computed .., state => by
      rw [calls, nests]
      exact iff_of_true (enter_mem_nestedCalls state _) rfl
  | .commaList items, state => enter_mem_callsAll ambient items state
  | .rootValue name stream, state => by
      rw [calls, nests, List.mem_append, enter_mem_callsAll ambient stream]
      simp

theorem enter_mem_callsAll (ambient : Ambient) :
    ∀ (values : List Value) (state : Expansion),
      Call.enter ∈ callsAll ambient values state ↔ anyNests values = true
  | [], _ => by simp [callsAll, anyNests]
  | value :: others, state => by
      rw [callsAll, anyNests, List.mem_append, enter_mem_calls ambient value,
        enter_mem_callsAll ambient others, Bool.or_eq_true]

end

end Value

/-! ## Tokens -/

namespace Environment

/-- Tokens that are resolved each for itself are resolved as the values that they stand for. -/
theorem resolveEach_eq (environment : Environment) (tokens : List Text) (state : Expansion) :
    environment.resolveEach tokens state =
      let pieces :=
        Value.evalAll environment.ambient (tokens.map (environment.lexicon.read false)) state
      (pieces.1.map Piece.text, pieces.2) := by
  induction tokens generalizing state with
  | nil => rfl
  | cons token others inductionHypothesis =>
      rw [resolveEach, inductionHypothesis]
      rfl

end Environment

end AtomicCss
