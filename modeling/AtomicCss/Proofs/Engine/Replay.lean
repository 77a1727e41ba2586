import AtomicCss.Proofs.Engine.Calls
import AtomicCss.Proofs.Engine.Discovery

/-!
Contract: the state of an engine after any run is that of a new engine that takes in each
discovered class name once.

Owns:
- the class names that a run submits since its last reset, and those it discovers;
- the invariant that the engine has taken in what was submitted, kept by every operation
  under steady readings;
- how often a class name is answered with yes.

Does not own: when the stylesheet is written.
-/

namespace AtomicCss

open ClassName

namespace Operation

/-- The class names handed over since the last reset, one after the other. -/
def submitted (operations : List Operation) : List Text :=
  (operations.rtakeWhile fun operation => operation ≠ .reset).flatMap fun operation =>
    operation.handedOver?.getD []

/-- The class names with the scheme that were handed over since the last reset, each where it
was handed over first. -/
def discovered (operations : List Operation) : List Text :=
  ((submitted operations).filter (Text.startsWith Grammar.scheme)).eraseDups

theorem submitted_append_singleton (operations : List Operation) (operation : Operation) :
    submitted (operations ++ [operation]) =
      if operation = .reset then []
      else submitted operations ++ operation.handedOver?.getD [] := by
  rw [submitted, List.rtakeWhile_concat]
  by_cases resets : operation = .reset
  · simp [resets]
  · simp [resets, submitted]

theorem mem_discovered {operations : List Operation} {className : Text} :
    className ∈ discovered operations ↔
      className ∈ submitted operations ∧ Text.startsWith Grammar.scheme className = true := by
  rw [discovered, List.mem_eraseDups, List.mem_filter]

end Operation

/-- Class names without the scheme, and further mentions of a class name, contribute
nothing. -/
theorem ClassName.contributions_eq_filterMap
    (environment : Environment)
    (ceiling : Nat)
    (classNames : List Text) :
    contributions environment ceiling classNames =
      (classNames.filter (Text.startsWith Grammar.scheme)).eraseDups.filterMap
        (contribution? environment ceiling) := by
  induction classNames using List.reverseRecOn with
  | nil => rfl
  | append_singleton earlier className inductionHypothesis =>
      rw [contributions_append_singleton, inductionHypothesis, List.filter_append]
      cases scheme : Text.startsWith Grammar.scheme className with
      | false =>
          rw [contribution?_of_no_scheme scheme, List.filter_cons_of_neg (by simp [scheme])]
          simp
      | true =>
          have known : className ∈ earlier.filter (Text.startsWith Grammar.scheme) ↔
              className ∈ earlier := by
            simp [scheme]
          rw [List.filter_cons_of_pos scheme, List.filter_nil, ← OrderedSet.members_ofList,
            ← OrderedSet.members_ofList, OrderedSet.members_ofList_append_singleton]
          simp only [known]
          split
          · rw [List.append_nil]
          · rw [List.filterMap_append, List.filterMap_cons, List.filterMap_nil]
            cases contribution? environment ceiling className <;> rfl

namespace Engine

/-! ## What was taken in -/

/-- The engine after a run has taken in what the run submitted, and it still works as it was
set to. -/
structure Replays (environment : Environment) (options : Options) (operations : List Operation)
    (engine : Engine) : Prop where
  took : TookIn environment engine.options (Operation.submitted operations) engine
  ceiling_eq : engine.options.ceiling = options.ceiling
  canonical_eq : engine.options.canonical = options.canonical

namespace Replays

variable
  {environment : Environment}
  {options : Options}
  {operations : List Operation}
  {engine : Engine}

theorem of_handedOver
    (replays : Replays environment options operations engine)
    {operation : Operation}
    {classNames : List Text}
    (handed : operation.handedOver? = some classNames) :
    Replays environment options (operations ++ [operation]) (engine.perform operation) := by
  have other : operation ≠ .reset := by
    rintro rfl
    cases handed
  have submitted : Operation.submitted (operations ++ [operation]) =
      Operation.submitted operations ++ classNames := by
    rw [Operation.submitted_append_singleton, if_neg other, handed, Option.getD_some]
  have took := replays.took.foldl_process classNames
  rw [← submitted, ← engine.perform_of_handedOver handed] at took
  refine ⟨?_, ?_, ?_⟩
  · rw [took.options_eq]
    exact took
  · rw [took.options_eq, replays.ceiling_eq]
  · rw [took.options_eq, replays.canonical_eq]

theorem of_quiet
    (replays : Replays environment options operations engine)
    {operation : Operation}
    (unhanded : operation.handedOver? = none)
    (remembers : operation ≠ .reset)
    (environment_eq : (engine.perform operation).environment = engine.environment) :
    Replays environment options (operations ++ [operation]) (engine.perform operation) := by
  have submitted : Operation.submitted (operations ++ [operation]) =
      Operation.submitted operations := by
    rw [Operation.submitted_append_singleton, if_neg remembers, unhanded, Option.getD_none,
      List.append_nil]
  obtain ⟨processed, store, ceiling_eq, canonical_eq⟩ := engine.perform_keeps unhanded remembers
  have took := replays.took
  refine ⟨⟨?_, rfl, ?_, ?_⟩, ceiling_eq.trans replays.ceiling_eq,
    canonical_eq.trans replays.canonical_eq⟩
  · rw [environment_eq, took.environment_eq]
  · rw [processed, submitted]
    exact took.processed
  · rw [store, took.store_eq, submitted, ceiling_eq]

theorem reset (replays : Replays environment options operations engine) :
    Replays environment options (operations ++ [.reset]) engine.reset := by
  have forgotten : Operation.submitted (operations ++ [.reset]) = [] := by
    rw [Operation.submitted_append_singleton, if_pos rfl]
  -- What was submitted before counts no more, and the engine has taken nothing in again.
  have new : TookIn environment engine.options [] (Engine.start environment engine.options) :=
    TookIn.start
  refine ⟨?_, replays.ceiling_eq, replays.canonical_eq⟩
  rw [forgotten]
  exact ⟨replays.took.environment_eq, rfl, new.processed, new.store_eq⟩

theorem perform
    (replays : Replays environment options operations engine)
    (operation : Operation)
    (steady : ∀ ambient, operation = .observe ambient → ambient = environment.ambient) :
    Replays environment options (operations ++ [operation]) (engine.perform operation) := by
  cases handed : operation.handedOver? with
  | some classNames => exact replays.of_handedOver handed
  | none =>
      by_cases resets : operation = .reset
      · subst resets
        exact replays.reset
      · refine replays.of_quiet handed resets (engine.environment_perform handed ?_)
        intro ambient same
        rw [steady ambient same, replays.took.environment_eq]

theorem run
    (environment : Environment)
    (options : Options)
    (operations : List Operation)
    (steady : ∀ ambient, .observe ambient ∈ operations → ambient = environment.ambient) :
    Replays environment options operations
      ((Engine.start environment options).run operations) := by
  -- From the last operation back, since what was submitted is counted from the end.
  induction operations using List.reverseRecOn with
  | nil => exact ⟨TookIn.start, rfl, rfl⟩
  | append_singleton earlier operation inductionHypothesis =>
      have replays := inductionHypothesis fun ambient member =>
        steady ambient (List.mem_append_left _ member)
      rw [Engine.run, List.foldl_append]
      refine replays.perform operation fun ambient same => steady ambient ?_
      rw [same]
      exact List.mem_append_right _ (List.mem_singleton_self _)

theorem store_eq (replays : Replays environment options operations engine) :
    engine.store = Store.empty.insertAll
      ((Operation.discovered operations).filterMap
        (ClassName.contribution? environment options.ceiling)) := by
  rw [replays.took.store_eq, contributions_eq_filterMap, replays.ceiling_eq]
  rfl

theorem rebuild_fst (replays : Replays environment options operations engine) :
    engine.rebuild.1 = Stylesheet.write options.canonical
      (Store.empty.insertAll
        ((Operation.discovered operations).filterMap
          (ClassName.contribution? environment options.ceiling))) := by
  rw [← replays.store_eq, ← replays.canonical_eq]
  rfl

end Replays

/-! ## Answers -/

/-- Since the last reset each class name was answered with yes at most once, and only those
taken in were at all. -/
def AnsweredOnce (engine : Engine) (history : List Event) : Prop :=
  ∀ className,
    (Event.since Event.forgets history).count (.call className true) ≤
      if className ∈ engine.processed.members then 1 else 0

namespace AnsweredOnce

variable {engine : Engine} {history : List Event}

theorem process (once : AnsweredOnce engine history) (className : Text) :
    AnsweredOnce (engine.process className).2
      (history ++ [.call className (engine.process className).1]) := by
  intro other
  have earlier := once other
  rw [Event.since_append_singleton, if_neg (by simp [Event.forgets]), List.count_append]
  cases taken : engine.takes className with
  | false =>
      rw [process_of_not_takes taken]
      simpa using earlier
  | true =>
      have fresh := not_mem_of_takes taken
      rw [processed_process taken]
      by_cases same : other = className
      · subst same
        rw [if_neg fresh] at earlier
        have last : [Event.call other (engine.process other).1].count (.call other true) ≤ 1 :=
          List.count_le_length
        simp only [List.mem_append, List.mem_singleton, or_true, if_true]
        omega
      · have differ : Event.call className (engine.process className).1 ≠ .call other true :=
          fun equal => same (Event.call.inj equal).1.symm
        simp only [List.mem_append, List.mem_singleton, same, or_false]
        rw [List.count_singleton, if_neg (by simpa using differ), Nat.add_zero]
        exact earlier

theorem perform
    (once : AnsweredOnce engine history)
    (operation : Operation)
    (unhanded : operation.handedOver? = none) :
    AnsweredOnce (engine.perform operation) (history ++ [.did operation]) := by
  intro className
  have earlier := once className
  rw [Event.since_append_singleton]
  by_cases resets : operation = .reset
  · subst resets
    simp [Event.forgets]
  · rw [Event.forgets_did resets, (engine.perform_keeps unhanded resets).1,
      if_neg (by decide), List.count_append]
    simpa using earlier

theorem run (environment : Environment) (options : Options) (operations : List Operation) :
    AnsweredOnce ((Engine.start environment options).run operations)
      ((Engine.start environment options).history operations) :=
  history_induction (fun _ _ className once => once.process className)
    (fun _ _ operation unhanded once => once.perform operation unhanded)
    (fun _ => Nat.zero_le _) operations

end AnsweredOnce

/-! ## Every run -/

/-- Under steady readings the state after any run depends on the discovered class names only:
they are the class names taken in, the store is what their contributions leave when they are
put into the empty store in the order of discovery, and every run with the same ones rebuilds
the same stylesheet.  Between resets no class name is answered with yes twice. -/
theorem run_replays
    (environment : Environment)
    (options : Options)
    (operations : List Operation)
    (steady : ∀ ambient, .observe ambient ∈ operations → ambient = environment.ambient) :
    let engine := (Engine.start environment options).run operations
    let history := (Engine.start environment options).history operations
    (∀ className,
      className ∈ engine.processed.members ↔ className ∈ Operation.discovered operations) ∧
    engine.store = Store.empty.insertAll
      ((Operation.discovered operations).filterMap
        (ClassName.contribution? environment options.ceiling)) ∧
    (∀ others : List Operation,
      (∀ ambient, .observe ambient ∈ others → ambient = environment.ambient) →
      Operation.discovered others = Operation.discovered operations →
        ((Engine.start environment options).run others).rebuild.1 = engine.rebuild.1) ∧
    ∀ className, (Event.since Event.forgets history).count (.call className true) ≤ 1 := by
  intro engine history
  have replays := Replays.run environment options operations steady
  refine ⟨?_, replays.store_eq, ?_, ?_⟩
  · intro className
    rw [replays.took.processed, Operation.mem_discovered]
  · intro others steadyOthers same
    have replaysOthers := Replays.run environment options others steadyOthers
    rw [replaysOthers.rebuild_fst, replays.rebuild_fst, same]
  · intro className
    have once := AnsweredOnce.run environment options operations className
    have bound : (if className ∈ engine.processed.members then 1 else 0) ≤ 1 := by
      split <;> omega
    exact once.trans bound

/-- A run with a reset, a foreign class name, repeated readings and a second mention leaves
what the class name leaves on its own. -/
theorem run_replays_palette :
    let operations : List Operation :=
      [.process "cssf--tpl-box_red".toList, .reset,
        .processAll ["card".toList, "cssf--tpl-red".toList], .flush, .observe palette.ambient,
        .process "cssf--tpl-red".toList]
    let engine := (Engine.start palette Options.standard).run operations
    (∀ ambient, .observe ambient ∈ operations → ambient = palette.ambient) ∧
    (∀ className,
      className ∈ engine.processed.members ↔ className = "cssf--tpl-red".toList) ∧
    engine.rebuild.1 =
      ((Engine.start palette Options.standard).run
        [.process "cssf--tpl-red".toList]).rebuild.1 := by
  intro operations engine
  have steady : ∀ ambient, .observe ambient ∈ operations → ambient = palette.ambient := by
    intro ambient member
    simpa [operations] using member
  have discovered : Operation.discovered operations = ["cssf--tpl-red".toList] := by rfl
  obtain ⟨processed, -, same, -⟩ := run_replays palette Options.standard operations steady
  refine ⟨steady, ?_, (same [.process "cssf--tpl-red".toList] (by simp) (by rfl)).symm⟩
  intro className
  rw [processed, discovered, List.mem_singleton]

end Engine

end AtomicCss
