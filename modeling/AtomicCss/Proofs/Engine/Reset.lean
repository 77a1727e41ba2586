import AtomicCss.Proofs.Engine.Session

/-!
Contract: after a reset an engine answers like a new one.

Owns:
- the requests to an engine, operations and questions, and the answers to them;
- engines that cannot be told apart by their answers, kept so by every request;
- the sources that requests block;
- the main statement about a reset.

Does not own: what the answers are.

## What a reset keeps

The tables, the readings and the options are those that the new engine is made with.  Sources
that could not be read stay listed, and the rebuilds taken up are counted on; neither has a part
in an answer.
-/

namespace AtomicCss

/-! ## Requests -/

/-- What an engine can be asked to do or to tell. -/
inductive Request where
  | perform (operation : Operation)
  | isProcessed (className : Text)
  | stylesheet
  | store
  | rootVariables
  | processedCount
  | failedCount
  | pending
deriving DecidableEq, Repr

/-- What an engine answers. -/
inductive Answer where
  /-- There is nothing to tell. -/
  | done
  | flag (holds : Bool)
  | count (number : Nat)
  /-- A stylesheet, if there is one to show. -/
  | css (text : Option Text)
  | contents (store : Store)
  | variables (values : OrderedMap Text Text)
deriving DecidableEq, Repr

/-- The source that a request blocks, with the reason. -/
def Request.blocked? : Request → Option (Text × Text)
  | .perform (.blockSource source reason) => some (source, reason)
  | _ => none

namespace Engine

/-- The answer to a request. -/
def answer (engine : Engine) : Request → Answer
  | .perform (.process className) => .flag (engine.process className).1
  | .perform (.processAll classNames) => .count (engine.processAll classNames).1
  | .perform (.processList classList) => .count (engine.processList classList).1
  | .perform .flush => .css engine.flush.1
  | .perform .rebuild => .css (some engine.rebuild.1)
  | .perform _ => .done
  | .isProcessed className => .flag (engine.isProcessed className)
  | .stylesheet => .css (some engine.stylesheet)
  | .store => .contents engine.store
  | .rootVariables => .variables engine.store.rootVariables
  | .processedCount => .count engine.processed.size
  | .failedCount => .count engine.failed
  | .pending => .flag engine.schedule.pending

/-- The engine after a request.  Questions change nothing. -/
def after (engine : Engine) : Request → Engine
  | .perform operation => engine.perform operation
  | _ => engine

/-- The answers to requests that are made one after the other. -/
def answers (engine : Engine) : List Request → List Answer
  | [] => []
  | request :: others => engine.answer request :: answers (engine.after request) others

def afterAll (engine : Engine) (requests : List Request) : Engine :=
  requests.foldl after engine

/-! ## Blocked sources -/

theorem blocked_after (engine : Engine) (request : Request) :
    (engine.after request).blocked = engine.blocked.insertAll request.blocked?.toList := by
  cases request with
  | perform operation =>
      cases operation with
      | process className => exact (engine.process_keeps className).2.2
      | processAll classNames => exact (engine.processAll_keeps classNames).2.2
      | processList classList => exact (engine.processAll_keeps (Text.words classList)).2.2
      | flush => exact engine.flush_keeps.2.2.2.2
      | rebuild | reset | setVerbose | blockSource | observe => rfl
  | isProcessed | stylesheet | store | rootVariables | processedCount | failedCount | pending =>
      rfl

theorem blocked_afterAll (engine : Engine) (requests : List Request) :
    (engine.afterAll requests).blocked =
      engine.blocked.insertAll (requests.filterMap Request.blocked?) := by
  induction requests generalizing engine with
  | nil => rfl
  | cons request others inductionHypothesis =>
      have next := inductionHypothesis (engine.after request)
      rw [blocked_after, ← OrderedMap.insertAll_append] at next
      rw [List.filterMap_cons]
      cases blocks : request.blocked? with
      | none => rwa [blocks] at next
      | some entry => rwa [blocks] at next

/-! ## Engines that answer alike -/

/-- Two engines are the same in all that answers depend on.  The first has taken up some more
rebuilds, those from before. -/
structure Alike (before : Nat) (used new : Engine) : Prop where
  environment : used.environment = new.environment
  options : used.options = new.options
  processed : used.processed = new.processed
  store : used.store = new.store
  pending : used.schedule.pending = new.schedule.pending
  fired : used.schedule.fired = before + new.schedule.fired
  stylesheet : used.stylesheet = new.stylesheet
  failed : used.failed = new.failed

namespace Alike

theorem reset (engine : Engine) :
    Alike engine.schedule.fired engine.reset
      (Engine.start engine.environment engine.options) where
  environment := rfl
  options := rfl
  processed := rfl
  store := rfl
  pending := rfl
  fired := rfl
  stylesheet := rfl
  failed := rfl

variable {before : Nat} {used new : Engine}

theorem process (alike : Alike before used new) (className : Text) :
    (used.process className).1 = (new.process className).1 ∧
      Alike before (used.process className).2 (new.process className).2 := by
  have takes : used.takes className = new.takes className := by
    rw [Engine.takes, Engine.takes, alike.processed]
  cases taken : new.takes className with
  | false =>
      rw [process_of_not_takes taken, process_of_not_takes (takes.trans taken)]
      exact ⟨rfl, alike⟩
  | true =>
      rw [process_of_takes taken, process_of_takes (takes.trans taken)]
      obtain ⟨read, rejects, -⟩ := reads_congr alike.environment alike.options className
      rw [read, rejects]
      refine ⟨rfl, alike.environment, alike.options, ?_, ?_, ?_, ?_, alike.stylesheet, ?_⟩
      · show used.processed.insert className = new.processed.insert className
        rw [alike.processed]
      · show used.store.insertAll _ = new.store.insertAll _
        rw [alike.store]
      · cases (new.contribution? className).isSome with
        | false => exact alike.pending
        | true => rfl
      · cases (new.contribution? className).isSome with
        | false => exact alike.fired
        | true => exact alike.fired
      · show used.failed + _ = new.failed + _
        rw [alike.failed]

theorem processAll (alike : Alike before used new) (classNames : List Text) :
    (used.processAll classNames).1 = (new.processAll classNames).1 ∧
      Alike before (used.processAll classNames).2 (new.processAll classNames).2 := by
  induction classNames using List.reverseRecOn with
  | nil => exact ⟨rfl, alike⟩
  | append_singleton earlier className inductionHypothesis =>
      obtain ⟨count, next⟩ := inductionHypothesis
      obtain ⟨answer, last⟩ := next.process className
      rw [processAll_append_singleton, processAll_append_singleton]
      dsimp only
      rw [count, answer]
      exact ⟨rfl, last⟩

theorem written (alike : Alike before used new) :
    Stylesheet.write used.options.canonical used.store =
      Stylesheet.write new.options.canonical new.store := by
  rw [alike.options, alike.store]

theorem flush (alike : Alike before used new) :
    used.flush.1 = new.flush.1 ∧ Alike before used.flush.2 new.flush.2 := by
  cases pending : new.schedule.pending with
  | false =>
      rw [flush_of_idle pending, flush_of_idle (alike.pending.trans pending)]
      exact ⟨rfl, alike⟩
  | true =>
      rw [flush_of_pending pending, flush_of_pending (alike.pending.trans pending)]
      refine ⟨congrArg some alike.written, ?_⟩
      exact
        { alike with
          pending := rfl
          fired := by
            show used.schedule.fired + 1 = before + (new.schedule.fired + 1)
            rw [alike.fired, Nat.add_assoc]
          stylesheet := alike.written }

theorem rebuild (alike : Alike before used new) :
    used.rebuild.1 = new.rebuild.1 ∧ Alike before used.rebuild.2 new.rebuild.2 :=
  ⟨alike.written, { alike with pending := rfl, stylesheet := alike.written }⟩

theorem perform (alike : Alike before used new) (operation : Operation) :
    used.answer (.perform operation) = new.answer (.perform operation) ∧
      Alike before (used.perform operation) (new.perform operation) := by
  cases operation with
  | process className => exact (alike.process className).imp_left (congrArg Answer.flag)
  | processAll classNames => exact (alike.processAll classNames).imp_left (congrArg Answer.count)
  | processList classList =>
      exact (alike.processAll (Text.words classList)).imp_left (congrArg Answer.count)
  | flush => exact alike.flush.imp_left (congrArg Answer.css)
  | rebuild => exact alike.rebuild.imp_left (congrArg fun text => Answer.css (some text))
  | reset =>
      exact ⟨rfl,
        { alike with
          processed := rfl
          store := rfl
          pending := rfl
          stylesheet := rfl
          failed := rfl }⟩
  | setVerbose verbose =>
      refine ⟨rfl, { alike with options := ?_ }⟩
      show { used.options with verbose := verbose } = { new.options with verbose := verbose }
      rw [alike.options]
  | blockSource source reason => exact ⟨rfl, { alike with }⟩
  | observe ambient =>
      refine ⟨rfl, { alike with environment := ?_ }⟩
      show { used.environment with ambient := ambient } =
        { new.environment with ambient := ambient }
      rw [alike.environment]

/-- A request is answered alike by both engines and leaves them alike. -/
theorem after (alike : Alike before used new) (request : Request) :
    used.answer request = new.answer request ∧
      Alike before (used.after request) (new.after request) := by
  cases request with
  | perform operation => exact alike.perform operation
  | isProcessed className =>
      refine ⟨?_, alike⟩
      exact congrArg
        (fun processed : OrderedSet Text => Answer.flag (processed.contains className))
        alike.processed
  | stylesheet => exact ⟨congrArg (fun text => Answer.css (some text)) alike.stylesheet, alike⟩
  | store => exact ⟨congrArg Answer.contents alike.store, alike⟩
  | rootVariables =>
      refine ⟨?_, alike⟩
      exact congrArg (fun store : Store => Answer.variables store.rootVariables) alike.store
  | processedCount =>
      refine ⟨?_, alike⟩
      exact congrArg (fun processed : OrderedSet Text => Answer.count processed.size)
        alike.processed
  | failedCount => exact ⟨congrArg Answer.count alike.failed, alike⟩
  | pending => exact ⟨congrArg Answer.flag alike.pending, alike⟩

theorem afterAll (alike : Alike before used new) (requests : List Request) :
    used.answers requests = new.answers requests ∧
      Alike before (used.afterAll requests) (new.afterAll requests) := by
  induction requests generalizing used new with
  | nil => exact ⟨rfl, alike⟩
  | cons request others inductionHypothesis =>
      obtain ⟨answer, next⟩ := alike.after request
      obtain ⟨rest, last⟩ := inductionHypothesis next
      refine ⟨?_, last⟩
      rw [answers, answers, answer, rest]

end Alike

/-! ## A reset -/

/-- Whatever an engine has gone through, a reset keeps the sources blocked, the count of rebuilds
taken up and the options.  After it, all requests, however many and in whatever order, get the
answers that a new engine with the same tables, readings and options gives.  At every point the
count of rebuilds is ahead by those from before the reset, the options are those of the new
engine, and the sources blocked from then on come after those from before. -/
theorem reset_like_new (engine : Engine) (requests : List Request) :
    let new := Engine.start engine.environment engine.options
    engine.reset.blockedSources = engine.blockedSources ∧
    engine.reset.schedule.fired = engine.schedule.fired ∧
    engine.reset.options = engine.options ∧
    engine.reset.answers requests = new.answers requests ∧
    (engine.reset.afterAll requests).schedule.fired =
      engine.schedule.fired + (new.afterAll requests).schedule.fired ∧
    (engine.reset.afterAll requests).options = (new.afterAll requests).options ∧
    (engine.reset.afterAll requests).blocked =
      engine.blocked.insertAll (requests.filterMap Request.blocked?) := by
  intro new
  obtain ⟨same, alike⟩ := (Alike.reset engine).afterAll requests
  exact ⟨rfl, rfl, rfl, same, alike.fired, alike.options,
    engine.reset.blocked_afterAll requests⟩

end Engine

end AtomicCss
