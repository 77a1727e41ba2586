import AtomicCss.Proofs.Engine.Calls

/-!
Contract: the stylesheet of an engine is never out of date without a rebuild pending.

Owns:
- what a class name does to the store, the schedule and the stylesheet, by the answer to it;
- the invariant that ties the pending rebuild to the history and the stylesheet to the store,
  kept by every class name and every operation;
- the main statement about every run.

Does not own: what a store holds.
-/

namespace AtomicCss.Engine

/-! ## Answers -/

section Answers

variable {engine : Engine} {className : Text}

/-- A class name that is answered with no leaves nothing to rebuild. -/
theorem process_of_refused (refused : (engine.process className).1 = false) :
    (engine.process className).2.store = engine.store ∧
      (engine.process className).2.schedule = engine.schedule ∧
      (engine.process className).2.stylesheet = engine.stylesheet := by
  cases taken : engine.takes className with
  | false =>
      rw [process_of_not_takes taken]
      exact ⟨rfl, rfl, rfl⟩
  | true =>
      rw [process_of_takes taken] at refused ⊢
      have unread : (engine.contribution? className).isSome = false := refused
      rw [Option.isSome_eq_false_iff, Option.isNone_iff_eq_none] at unread
      rw [unread]
      exact ⟨rfl, rfl, rfl⟩

theorem pending_of_accepted (accepted : (engine.process className).1 = true) :
    (engine.process className).2.schedule.pending = true := by
  cases taken : engine.takes className with
  | false =>
      rw [process_of_not_takes taken] at accepted
      cases accepted
  | true =>
      rw [process_of_takes taken] at accepted ⊢
      have read : (engine.contribution? className).isSome = true := accepted
      rw [if_pos read]
      rfl

end Answers

theorem flush_fst (engine : Engine) :
    engine.flush.1 =
      if engine.schedule.pending then
        some (Stylesheet.write engine.options.canonical engine.store)
      else none := by
  cases pending : engine.schedule.pending with
  | false => rw [flush_of_idle pending, if_neg Bool.false_ne_true]
  | true =>
      rw [flush_of_pending pending, if_pos rfl]
      rfl

/-! ## The invariant -/

/-- A rebuild is pending when a class name was answered with yes and nothing has settled the
request; otherwise the stylesheet is that of the store. -/
structure UpToDate (canonical : Bool) (engine : Engine) (history : List Event) : Prop where
  canonical_eq : engine.options.canonical = canonical
  pending_iff :
    engine.schedule.pending = true ↔
      ∃ className, .call className true ∈ Event.since Event.settles history
  stylesheet :
    engine.schedule.pending = false →
      engine.stylesheet = Stylesheet.write canonical engine.store

namespace UpToDate

variable {canonical : Bool} {engine : Engine} {history : List Event}

theorem start (environment : Environment) (options : Options) :
    UpToDate options.canonical (Engine.start environment options) [] where
  canonical_eq := rfl
  pending_iff := by simp [Engine.start, Schedule.start, Event.since]
  stylesheet := by
    intro _
    cases options.canonical <;>
      simp [Engine.start, Stylesheet.write, Stylesheet.blocks, Stylesheet.orderedTexts,
        Stylesheet.orderedRules, Stylesheet.orderedGroups, AtRule.sort, Store.empty,
        OrderedSet.empty, OrderedMap.empty, OrderedMap.keys, OrderedMap.values]

theorem process (current : UpToDate canonical engine history) (className : Text) :
    UpToDate canonical (engine.process className).2
      (history ++ [.call className (engine.process className).1]) := by
  have options := (process_keeps engine className).2.1
  have canonical_eq : (engine.process className).2.options.canonical = canonical := by
    rw [options, current.canonical_eq]
  have since : Event.since Event.settles
      (history ++ [.call className (engine.process className).1]) =
        Event.since Event.settles history ++ [.call className (engine.process className).1] :=
    Event.since_append_singleton _ _ _
  cases answer : (engine.process className).1 with
  | false =>
      obtain ⟨store, schedule, stylesheet⟩ := process_of_refused answer
      rw [answer] at since
      refine ⟨canonical_eq, ?_, ?_⟩
      · rw [schedule, current.pending_iff, since]
        simp
      · rw [schedule, store, stylesheet]
        exact current.stylesheet
  | true =>
      have pending := pending_of_accepted answer
      rw [answer] at since
      refine ⟨canonical_eq, ?_, ?_⟩
      · refine iff_of_true pending ⟨className, ?_⟩
        rw [since]
        simp
      · rw [pending]
        intro settled
        cases settled

/-- After an operation that settles the request none is pending, and the stylesheet has been
written from the store. -/
theorem of_settled
    {operation : Operation}
    (settles : Event.settles (.did operation) = true)
    (canonical_eq : engine.options.canonical = canonical)
    (idle : engine.schedule.pending = false)
    (written : engine.stylesheet = Stylesheet.write canonical engine.store) :
    UpToDate canonical engine (history ++ [.did operation]) := by
  refine ⟨canonical_eq, ?_, fun _ => written⟩
  rw [Event.since_append_singleton, if_pos settles, idle]
  simp

theorem of_quiet
    (current : UpToDate canonical engine history)
    {operation : Operation}
    (quiet : Event.settles (.did operation) = false)
    {after : Engine}
    (canonical_eq : after.options.canonical = engine.options.canonical)
    (schedule : after.schedule = engine.schedule)
    (stylesheet : after.stylesheet = engine.stylesheet)
    (store : after.store = engine.store) :
    UpToDate canonical after (history ++ [.did operation]) := by
  refine ⟨canonical_eq.trans current.canonical_eq, ?_, ?_⟩
  · rw [schedule, current.pending_iff, Event.since_append_singleton, quiet]
    simp
  · rw [schedule, stylesheet, store]
    exact current.stylesheet

theorem flush (current : UpToDate canonical engine history) :
    UpToDate canonical engine.flush.2 (history ++ [.did .flush]) := by
  cases pending : engine.schedule.pending with
  | false =>
      -- There is nothing to run, and by the invariant nothing to write either.
      rw [flush_of_idle pending]
      exact of_settled rfl current.canonical_eq pending (current.stylesheet pending)
  | true =>
      rw [flush_of_pending pending]
      refine of_settled rfl current.canonical_eq rfl ?_
      rw [← current.canonical_eq]
      rfl

theorem rebuild (current : UpToDate canonical engine history) :
    UpToDate canonical engine.rebuild.2 (history ++ [.did .rebuild]) := by
  refine of_settled rfl current.canonical_eq rfl ?_
  rw [← current.canonical_eq]
  rfl

theorem reset (current : UpToDate canonical engine history) :
    UpToDate canonical engine.reset (history ++ [.did .reset]) := by
  -- The empty stylesheet is that of the empty store, as at the start.
  have empty := (start engine.environment engine.options).stylesheet rfl
  rw [current.canonical_eq] at empty
  exact of_settled rfl current.canonical_eq rfl empty

theorem perform
    (current : UpToDate canonical engine history)
    (operation : Operation)
    (unhanded : operation.handedOver? = none) :
    UpToDate canonical (engine.perform operation) (history ++ [.did operation]) := by
  cases operation with
  | process | processAll | processList => cases unhanded
  | flush => exact current.flush
  | rebuild => exact current.rebuild
  | reset => exact current.reset
  | setVerbose | blockSource | observe => exact current.of_quiet rfl rfl rfl rfl rfl

theorem run (environment : Environment) (options : Options) (operations : List Operation) :
    UpToDate options.canonical ((Engine.start environment options).run operations)
      ((Engine.start environment options).history operations) :=
  history_induction (fun _ _ className current => current.process className)
    (fun _ _ operation unhanded current => current.perform operation unhanded)
    (start environment options) operations

end UpToDate

/-! ## Every run -/

/-- In every run, whatever is done and in whatever order: unless a rebuild is pending, the
stylesheet is that of the store; a rebuild is pending exactly when some class name was answered
with yes since the last flush, rebuild, reset or the start; and a flush gives a stylesheet
exactly when one is pending, the one of the store as it is then. -/
theorem stylesheet_never_stale
    (environment : Environment)
    (options : Options)
    (operations : List Operation) :
    let engine := (Engine.start environment options).run operations
    let history := (Engine.start environment options).history operations
    let built := Stylesheet.write options.canonical engine.store
    (engine.schedule.pending = false → engine.stylesheet = built) ∧
    (engine.schedule.pending = true ↔
      ∃ className, .call className true ∈ Event.since Event.settles history) ∧
    engine.flush.1 = if engine.schedule.pending then some built else none := by
  intro engine history built
  have current := UpToDate.run environment options operations
  refine ⟨current.stylesheet, current.pending_iff, ?_⟩
  rw [flush_fst, current.canonical_eq]

end AtomicCss.Engine
