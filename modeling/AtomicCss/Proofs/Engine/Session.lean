import AtomicCss.Engine
import AtomicCss.Proofs.ClassName.Selector
import AtomicCss.Proofs.Rules.Growth

/-!
Contract: runs of an engine, with a log of what each class name was read as.

Owns:
- the operations on an engine and runs of them;
- sessions, which keep beside the engine what each class name taken in since the last
  reset was read as;
- the invariant that ties the store of a session to its log, kept by every operation.

Does not own: the stylesheets that a run writes.
-/

namespace AtomicCss

/-! ## Operations -/

/-- What can be done to an engine. -/
inductive Operation where
  | process (className : Text)
  | processAll (classNames : List Text)
  /-- Take in the words of a class attribute. -/
  | processList (classList : Text)
  | flush
  | rebuild
  | reset
  | setVerbose (verbose : Bool)
  | blockSource (source reason : Text)
  /-- From now on the clock, the viewport and the source of digits give these readings. -/
  | observe (ambient : Ambient)
deriving DecidableEq, Repr

namespace Engine

/-- Take later readings. -/
def observe (engine : Engine) (ambient : Ambient) : Engine :=
  { engine with environment := { engine.environment with ambient := ambient } }

/-- The engine after an operation. -/
def perform (engine : Engine) : Operation → Engine
  | .process className => (engine.process className).2
  | .processAll classNames => (engine.processAll classNames).2
  | .processList classList => (engine.processList classList).2
  | .flush => engine.flush.2
  | .rebuild => engine.rebuild.2
  | .reset => engine.reset
  | .setVerbose verbose => engine.setVerbose verbose
  | .blockSource source reason => engine.blockSource source reason
  | .observe ambient => engine.observe ambient

/-- The engine after operations, performed one after the other. -/
def run (engine : Engine) (operations : List Operation) : Engine :=
  operations.foldl perform engine

/-! ## One class name -/

/-- A class name changes the engine: it has the scheme and was not taken in before. -/
def takes (engine : Engine) (className : Text) : Bool :=
  Text.startsWith Grammar.scheme className && !engine.processed.contains className

/-- What the engine reads a class name as. -/
def contribution? (engine : Engine) (className : Text) : Option Contribution :=
  ClassName.contribution? engine.environment engine.options.ceiling className

/-- The class name cannot be read. -/
def rejects (engine : Engine) (className : Text) : Bool :=
  match ClassName.read engine.environment engine.options.ceiling className with
  | .error _ => true
  | .ok _ => false

/-- What is reported when a class name is taken in. -/
def noticesOf (engine : Engine) (className : Text) : List Notice :=
  match ClassName.read engine.environment engine.options.ceiling className with
  | .error fault => [.classRejected (.parse className fault)]
  | .ok outcome => outcome.notices

theorem takes_eq_true_iff {engine : Engine} {className : Text} :
    engine.takes className = true ↔
      Text.startsWith Grammar.scheme className = true ∧
        className ∉ engine.processed.members := by
  simp [takes, OrderedSet.contains]

/-- Engines with the same tables, readings and options read a class name alike. -/
theorem reads_congr
    {engine other : Engine}
    (environment : engine.environment = other.environment)
    (options : engine.options = other.options)
    (className : Text) :
    engine.contribution? className = other.contribution? className ∧
      engine.rejects className = other.rejects className ∧
      engine.noticesOf className = other.noticesOf className := by
  rw [contribution?, contribution?, rejects, rejects, noticesOf, noticesOf, environment, options]
  exact ⟨rfl, rfl, rfl⟩

section Process

variable {engine : Engine} {className : Text}

theorem process_of_not_takes (refused : engine.takes className = false) :
    engine.process className = (false, engine) := by
  unfold process
  rw [if_pos]
  cases scheme : Text.startsWith Grammar.scheme className with
  | false => simp
  | true => simpa [takes, scheme] using refused

/-- All that taking a class name in changes.  What it is read as goes to the store and asks for
a rebuild. -/
theorem process_of_takes (taken : engine.takes className = true) :
    engine.process className =
      ((engine.contribution? className).isSome,
        { engine with
          processed := engine.processed.insert className
          store := engine.store.insertAll (engine.contribution? className).toList
          schedule :=
            if (engine.contribution? className).isSome then engine.schedule.request.2
            else engine.schedule
          failed := engine.failed + (if engine.rejects className then 1 else 0)
          notices := engine.notices ++ engine.noticesOf className }) := by
  have new : ¬ (!Text.startsWith Grammar.scheme className ||
      engine.processed.contains className) = true := by
    simpa [takes] using taken
  rw [process, if_neg new]
  unfold accept contribution? ClassName.contribution? rejects noticesOf
  cases ClassName.read engine.environment engine.options.ceiling className with
  | error fault => rfl
  | ok outcome =>
      obtain ⟨contribution, notices⟩ := outcome
      cases contribution <;> rfl

/-- A class name that is taken in brings its contribution into the store. -/
theorem store_process (taken : engine.takes className = true) :
    (engine.process className).2.store =
      match engine.contribution? className with
      | some contribution => engine.store.insert contribution
      | none => engine.store := by
  rw [process_of_takes taken]
  cases engine.contribution? className <;> rfl

theorem not_mem_of_takes (taken : engine.takes className = true) :
    className ∉ engine.processed.members :=
  (takes_eq_true_iff.1 taken).2

theorem processed_process (taken : engine.takes className = true) :
    (engine.process className).2.processed.members =
      engine.processed.members ++ [className] := by
  rw [process_of_takes taken, OrderedSet.members_insert, if_neg (not_mem_of_takes taken)]

end Process

/-- Taking a class name in keeps the tables, the readings, the options and the list of sources
that could not be read. -/
theorem process_keeps (engine : Engine) (className : Text) :
    (engine.process className).2.environment = engine.environment ∧
      (engine.process className).2.options = engine.options ∧
      (engine.process className).2.blocked = engine.blocked := by
  cases taken : engine.takes className with
  | false =>
      rw [process_of_not_takes taken]
      exact ⟨rfl, rfl, rfl⟩
  | true =>
      rw [process_of_takes taken]
      exact ⟨rfl, rfl, rfl⟩

theorem flush_of_idle {engine : Engine} (idle : engine.schedule.pending = false) :
    engine.flush = (none, engine) := by
  simp [flush, Schedule.take, idle]

theorem flush_of_pending {engine : Engine} (pending : engine.schedule.pending = true) :
    engine.flush =
      let next := { engine with schedule := ⟨false, engine.schedule.fired + 1⟩ }.refresh
      (some next.stylesheet, next) := by
  simp [flush, Schedule.take, pending]

theorem flush_keeps (engine : Engine) :
    engine.flush.2.environment = engine.environment ∧
      engine.flush.2.options = engine.options ∧
      engine.flush.2.processed = engine.processed ∧
      engine.flush.2.store = engine.store ∧
      engine.flush.2.blocked = engine.blocked := by
  cases pending : engine.schedule.pending with
  | false =>
      rw [flush_of_idle pending]
      exact ⟨rfl, rfl, rfl, rfl, rfl⟩
  | true =>
      rw [flush_of_pending pending]
      exact ⟨rfl, rfl, rfl, rfl, rfl⟩

theorem processAll_append_singleton (engine : Engine) (classNames : List Text) (last : Text) :
    engine.processAll (classNames ++ [last]) =
      let earlier := engine.processAll classNames
      let taken := earlier.2.process last
      (if taken.1 then earlier.1 + 1 else earlier.1, taken.2) := by
  rw [processAll, List.foldl_append]
  rfl

/-- Taking class names in is taking each of them in turn. -/
theorem processAll_snd (engine : Engine) (classNames : List Text) :
    (engine.processAll classNames).2 =
      classNames.foldl (fun engine className => (engine.process className).2) engine := by
  induction classNames using List.reverseRecOn with
  | nil => rfl
  | append_singleton earlier className inductionHypothesis =>
      rw [processAll_append_singleton, List.foldl_append, ← inductionHypothesis]
      rfl

theorem processAll_keeps (engine : Engine) (classNames : List Text) :
    (engine.processAll classNames).2.environment = engine.environment ∧
      (engine.processAll classNames).2.options = engine.options ∧
      (engine.processAll classNames).2.blocked = engine.blocked := by
  induction classNames using List.reverseRecOn with
  | nil => exact ⟨rfl, rfl, rfl⟩
  | append_singleton earlier className inductionHypothesis =>
      rw [processAll_append_singleton]
      obtain ⟨environment, options, blocked⟩ := inductionHypothesis
      obtain ⟨environment', options', blocked'⟩ := process_keeps _ className
      exact ⟨environment'.trans environment, options'.trans options, blocked'.trans blocked⟩

end Engine

/-! ## Sessions -/

/-- An engine with a log of every class name taken in since the last reset and what it
was read as. -/
structure Session where
  engine : Engine
  log : List (Text × Option Contribution)

namespace Session

/-- A new engine has taken nothing in. -/
def start (environment : Environment) (options : Options) : Session :=
  ⟨Engine.start environment options, []⟩

/-- The contributions in the log. -/
def contributions (session : Session) : List Contribution :=
  session.log.filterMap Prod.snd

/-- Take a class name in, and log it if it changes the engine. -/
def take (session : Session) (className : Text) : Session :=
  if session.engine.takes className then
    ⟨(session.engine.process className).2,
      session.log ++ [(className, session.engine.contribution? className)]⟩
  else
    session

/-- The session after an operation. -/
def perform (session : Session) : Operation → Session
  | .process className => session.take className
  | .processAll classNames => classNames.foldl take session
  | .processList classList => (Text.words classList).foldl take session
  | .reset => ⟨session.engine.reset, []⟩
  | operation => ⟨session.engine.perform operation, session.log⟩

/-- The session after operations, performed one after the other. -/
def run (session : Session) (operations : List Operation) : Session :=
  operations.foldl perform session

/-! ## The engine of a session -/

theorem engine_take (session : Session) (className : Text) :
    (session.take className).engine = (session.engine.process className).2 := by
  unfold take
  cases taken : session.engine.takes className with
  | true => rfl
  | false => rw [Engine.process_of_not_takes taken]; rfl

theorem engine_foldl_take (session : Session) (classNames : List Text) :
    (classNames.foldl take session).engine = (session.engine.processAll classNames).2 := by
  rw [Engine.processAll_snd]
  induction classNames generalizing session with
  | nil => rfl
  | cons className others inductionHypothesis =>
      rw [List.foldl_cons, List.foldl_cons, inductionHypothesis, engine_take]

/-- The log does not change what the engine does. -/
theorem engine_perform (session : Session) (operation : Operation) :
    (session.perform operation).engine = session.engine.perform operation := by
  cases operation with
  | process className => exact engine_take session className
  | processAll classNames => exact engine_foldl_take session classNames
  | processList classList => exact engine_foldl_take session (Text.words classList)
  | flush | rebuild | reset | setVerbose | blockSource | observe => rfl

theorem engine_run (session : Session) (operations : List Operation) :
    (session.run operations).engine = session.engine.run operations := by
  induction operations generalizing session with
  | nil => rfl
  | cons operation others inductionHypothesis =>
      show (Session.run (session.perform operation) others).engine =
        Engine.run (session.engine.perform operation) others
      rw [inductionHypothesis, engine_perform]

/-! ## The invariant -/

/-- The log of a session tells the class names that its engine took in, what each of them
was read as, and the store. -/
structure Sound (lexicon : Lexicon) (ceiling : Nat) (session : Session) : Prop where
  lexicon_eq : session.engine.environment.lexicon = lexicon
  ceiling_eq : session.engine.options.ceiling = ceiling
  processed : session.log.map Prod.fst = session.engine.processed.members
  readings :
    ∀ entry ∈ session.log, ∃ ambient,
      entry.2 = ClassName.contribution? ⟨lexicon, ambient⟩ ceiling entry.1
  store : session.engine.store = Store.empty.insertAll session.contributions

namespace Sound

variable {lexicon : Lexicon} {ceiling : Nat} {session : Session}

theorem start (environment : Environment) (options : Options) :
    Sound environment.lexicon options.ceiling (Session.start environment options) where
  lexicon_eq := rfl
  ceiling_eq := rfl
  processed := rfl
  readings := by simp [Session.start]
  store := rfl

theorem take (sound : Sound lexicon ceiling session) (className : Text) :
    Sound lexicon ceiling (session.take className) := by
  unfold Session.take
  cases taken : session.engine.takes className with
  | false => exact sound
  | true =>
      rw [if_pos rfl]
      obtain ⟨environment, options, -⟩ := Engine.process_keeps session.engine className
      refine ⟨?_, ?_, ?_, ?_, ?_⟩
      · simp only [environment, sound.lexicon_eq]
      · simp only [options, sound.ceiling_eq]
      · simp only [List.map_append, List.map_cons, List.map_nil, sound.processed,
          Engine.processed_process taken]
      · intro entry member
        rcases List.mem_append.1 member with earlier | last
        · exact sound.readings entry earlier
        · rw [List.mem_singleton.1 last]
          refine ⟨session.engine.environment.ambient, ?_⟩
          simp only [Engine.contribution?, ← sound.lexicon_eq, ← sound.ceiling_eq]
      · simp only [Engine.store_process taken, contributions, List.filterMap_append]
        cases session.engine.contribution? className with
        | none => simpa [contributions] using sound.store
        | some contribution =>
            simp only [List.filterMap_cons, List.filterMap_nil, Store.insertAll,
              List.foldl_append, List.foldl_cons, List.foldl_nil, sound.store, contributions]

theorem foldl_take (sound : Sound lexicon ceiling session) (classNames : List Text) :
    Sound lexicon ceiling (classNames.foldl Session.take session) :=
  List.foldlRecOn classNames Session.take sound fun _ kept className _ => kept.take className

/-- Every operation keeps the log right. -/
theorem perform (sound : Sound lexicon ceiling session) (operation : Operation) :
    Sound lexicon ceiling (session.perform operation) := by
  cases operation with
  | process className => exact sound.take className
  | processAll classNames => exact sound.foldl_take classNames
  | processList classList => exact sound.foldl_take (Text.words classList)
  | reset => exact ⟨sound.lexicon_eq, sound.ceiling_eq, rfl, by simp [Session.perform], rfl⟩
  | flush =>
      obtain ⟨environment, options, processed, store, -⟩ := session.engine.flush_keeps
      exact
        { lexicon_eq := environment ▸ sound.lexicon_eq
          ceiling_eq := options ▸ sound.ceiling_eq
          processed := processed ▸ sound.processed
          readings := sound.readings
          store := store ▸ sound.store }
  | rebuild | setVerbose | blockSource | observe =>
      exact ⟨sound.lexicon_eq, sound.ceiling_eq, sound.processed, sound.readings, sound.store⟩

/-- Every run keeps the log right. -/
theorem run (sound : Sound lexicon ceiling session) (operations : List Operation) :
    Sound lexicon ceiling (session.run operations) :=
  List.foldlRecOn operations Session.perform sound fun _ kept operation _ =>
    kept.perform operation

end Sound

end Session

end AtomicCss
