import AtomicCss.Proofs.Engine.Session
import Mathlib.Data.List.DropRight

/-!
Contract: the history of a run, one class name at a time.

Owns:
- the class names that an operation hands over, of which there may be many, and what one
  that hands none over leaves as it is;
- the events of a run: each class name with the answer to it, and every other operation;
- the last stretch of a history, back to an event of a given kind;
- the induction over a run and its history together.

Does not own: what the history of an engine says about its state.
-/

namespace AtomicCss

/-! ## Class names handed over -/

/-- The class names that an operation hands over one after the other.  An operation that
takes none at all has nothing here, not even an empty list. -/
def Operation.handedOver? : Operation → Option (List Text)
  | .process className => some [className]
  | .processAll classNames => some classNames
  | .processList classList => some (Text.words classList)
  | _ => none

theorem Engine.perform_of_handedOver
    (engine : Engine)
    {operation : Operation}
    {classNames : List Text}
    (handed : operation.handedOver? = some classNames) :
    engine.perform operation =
      classNames.foldl (fun engine className => (engine.process className).2) engine := by
  cases operation with
  | process className =>
      obtain rfl := Option.some.inj handed
      rfl
  | processAll given =>
      obtain rfl := Option.some.inj handed
      exact engine.processAll_snd given
  | processList classList =>
      obtain rfl := Option.some.inj handed
      exact engine.processAll_snd (Text.words classList)
  | flush | rebuild | reset | setVerbose | blockSource | observe => cases handed

/-- An operation that hands no class names over and is no reset leaves the class names and the
store as they are, and the options that stylesheets depend on. -/
theorem Engine.perform_keeps
    (engine : Engine)
    {operation : Operation}
    (unhanded : operation.handedOver? = none)
    (remembers : operation ≠ .reset) :
    (engine.perform operation).processed = engine.processed ∧
      (engine.perform operation).store = engine.store ∧
      (engine.perform operation).options.ceiling = engine.options.ceiling ∧
      (engine.perform operation).options.canonical = engine.options.canonical := by
  cases operation with
  | process | processAll | processList => cases unhanded
  | reset => exact absurd rfl remembers
  | flush =>
      obtain ⟨-, options, processed, store, -⟩ := engine.flush_keeps
      exact ⟨processed, store, congrArg _ options, congrArg _ options⟩
  | rebuild | setVerbose | blockSource | observe => exact ⟨rfl, rfl, rfl, rfl⟩

theorem Engine.environment_perform
    (engine : Engine)
    {operation : Operation}
    (unhanded : operation.handedOver? = none)
    (steady : ∀ ambient, operation = .observe ambient → ambient = engine.environment.ambient) :
    (engine.perform operation).environment = engine.environment := by
  cases operation with
  | process | processAll | processList => cases unhanded
  | flush => exact engine.flush_keeps.1
  | observe ambient =>
      show { engine.environment with ambient := ambient } = engine.environment
      rw [steady ambient rfl]
  | rebuild | reset | setVerbose | blockSource => rfl

/-! ## Events -/

/-- What happens in a run. -/
inductive Event where
  /-- A class name was handed over and answered. -/
  | call (className : Text) (answer : Bool)
  /-- An operation that hands no class names over was performed. -/
  | did (operation : Operation)
deriving DecidableEq, Repr

namespace Event

/-- After a flush, a rebuild or a reset no rebuild is pending. -/
def settles : Event → Bool
  | did .flush | did .rebuild | did .reset => true
  | _ => false

/-- A reset forgets the class names taken in. -/
def forgets : Event → Bool
  | did .reset => true
  | _ => false

/-- The events after the last one of a kind, or all when there is none of the kind. -/
def since (kind : Event → Bool) (history : List Event) : List Event :=
  history.rtakeWhile fun event => !kind event

theorem forgets_did {operation : Operation} (remembers : operation ≠ .reset) :
    forgets (.did operation) = false := by
  cases operation with
  | reset => exact absurd rfl remembers
  | _ => rfl

theorem since_append_singleton (kind : Event → Bool) (history : List Event) (event : Event) :
    since kind (history ++ [event]) =
      if kind event then [] else since kind history ++ [event] := by
  rw [since, List.rtakeWhile_concat]
  cases kind event <;> rfl

end Event

namespace Engine

/-- The calls for class names handed over one after the other. -/
def calls (engine : Engine) : List Text → List Event
  | [] => []
  | className :: others =>
      .call className (engine.process className).1 ::
        calls (engine.process className).2 others

def events (engine : Engine) (operation : Operation) : List Event :=
  match operation.handedOver? with
  | some classNames => engine.calls classNames
  | none => [.did operation]

/-- The events of operations performed one after the other. -/
def history (engine : Engine) : List Operation → List Event
  | [] => []
  | operation :: others =>
      engine.events operation ++ history (engine.perform operation) others

/-! ## Induction -/

section Induction

variable {motive : Engine → List Event → Prop}

theorem calls_induction
    (call :
      ∀ engine history className, motive engine history →
        motive (engine.process className).2
          (history ++ [.call className (engine.process className).1]))
    {engine : Engine}
    {past : List Event}
    (start : motive engine past)
    (classNames : List Text) :
    motive (classNames.foldl (fun engine className => (engine.process className).2) engine)
      (past ++ engine.calls classNames) := by
  induction classNames generalizing engine past with
  | nil =>
      rw [calls, List.append_nil]
      exact start
  | cons className others inductionHypothesis =>
      have next := inductionHypothesis (call engine past className start)
      rw [List.append_assoc] at next
      exact next

/-- What holds at the start, and is kept by every class name that is handed over and by
every other operation, holds of a run and its history. -/
theorem history_induction
    (call :
      ∀ engine history className, motive engine history →
        motive (engine.process className).2
          (history ++ [.call className (engine.process className).1]))
    (did :
      ∀ engine history operation, operation.handedOver? = none → motive engine history →
        motive (engine.perform operation) (history ++ [.did operation]))
    {engine : Engine}
    (start : motive engine [])
    (operations : List Operation) :
    motive (engine.run operations) (engine.history operations) := by
  suffices from_here : ∀ past, motive engine past →
      motive (engine.run operations) (past ++ engine.history operations) from
    from_here [] start
  clear start
  induction operations generalizing engine with
  | nil =>
      intro past current
      rw [history, List.append_nil]
      exact current
  | cons operation others inductionHypothesis =>
      intro past current
      have step : motive (engine.perform operation) (past ++ engine.events operation) := by
        unfold events
        cases handed : operation.handedOver? with
        | none => exact did engine past operation handed current
        | some classNames =>
            rw [engine.perform_of_handedOver handed]
            exact calls_induction call current classNames
      have rest := inductionHypothesis _ step
      rw [List.append_assoc] at rest
      exact rest

end Induction

end Engine

end AtomicCss
