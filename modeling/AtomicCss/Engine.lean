import AtomicCss.ClassName.Reading
import AtomicCss.Schedule
import AtomicCss.Stylesheet

/-!
Contract: the state that lives across all class names of a page or a build.

Owns:
- the options and the state of an engine;
- taking class names in, each at most once;
- rebuilding the stylesheet, at once or when one is pending;
- the sources that could not be read.

Does not own: finding class names and reading sources.
-/

namespace AtomicCss

/-- How an engine works. -/
structure Options where
  /-- The ceiling of expansions. -/
  ceiling : Nat
  /-- Sort the sections of the stylesheet. -/
  canonical : Bool
  verbose : Bool
  /-- The size of the viewport, if known. -/
  viewport : Option (Nat × Nat)
deriving DecidableEq, Repr

/-- The options of an engine that was given none. -/
def Options.standard : Options :=
  ⟨Grammar.defaultCeiling, false, false, none⟩

/-- A source that could not be read, and why. -/
structure BlockedSource where
  source : Text
  reason : Text
deriving DecidableEq, Repr

/-- The state of an engine. -/
structure Engine where
  environment : Environment
  options : Options
  /-- The class names taken in so far. -/
  processed : OrderedSet Text
  store : Store
  schedule : Schedule
  /-- The text of the last rebuild. -/
  stylesheet : Text
  /-- Why each source that could not be read could not be. -/
  blocked : OrderedMap Text Text
  /-- The number of class names that could not be read. -/
  failed : Nat
  /-- In the order in which they were given. -/
  notices : List Notice

namespace Engine

/-- An engine that has taken nothing in. -/
def start (environment : Environment) (options : Options) : Engine where
  environment := environment
  options := options
  processed := .empty
  store := .empty
  schedule := .start
  stylesheet := []
  blocked := .empty
  failed := 0
  notices := []

/-! ## Class names -/

/-- Give notices. -/
def report (engine : Engine) (notices : List Notice) : Engine :=
  { engine with notices := engine.notices ++ notices }

/-- Take what came of reading a class name.  The answer tells whether there is
output. -/
def accept (engine : Engine) (className : Text)
    (result : Except ClassFault ClassName.Outcome) : Bool × Engine :=
  match result with
  | .error fault =>
      (false,
        { engine.report [.classRejected (.parse className fault)] with
          failed := engine.failed + 1 })
  | .ok outcome =>
      match outcome.contribution with
      | none => (false, engine.report outcome.notices)
      | some contribution =>
          (true,
            { engine.report outcome.notices with
              store := engine.store.insert contribution
              schedule := engine.schedule.request.2 })

/-- Take a class name in.  The answer tells whether it was new and has output;
names without the scheme are ignored. -/
def process (engine : Engine) (className : Text) : Bool × Engine :=
  if !Text.startsWith Grammar.scheme className || engine.processed.contains className then
    (false, engine)
  else
    accept { engine with processed := engine.processed.insert className } className
      (ClassName.read engine.environment engine.options.ceiling className)

/-- Take class names in one after the other.  The answer counts those that were
new and have output. -/
def processAll (engine : Engine) (classNames : List Text) : Nat × Engine :=
  classNames.foldl
    (fun (count, engine) className =>
      let taken := engine.process className
      (if taken.1 then count + 1 else count, taken.2))
    (0, engine)

/-- Take in the words of a class attribute. -/
def processList (engine : Engine) (classList : Text) : Nat × Engine :=
  engine.processAll (Text.words classList)

/-- A class name was taken in. -/
def isProcessed (engine : Engine) (className : Text) : Bool :=
  engine.processed.contains className

/-! ## Stylesheets -/

/-- Write the stylesheet of the store. -/
def refresh (engine : Engine) : Engine :=
  { engine with stylesheet := Stylesheet.write engine.options.canonical engine.store }

/-- Run the pending rebuild, if there is one, and give its stylesheet. -/
def flush (engine : Engine) : Option Text × Engine :=
  let taken := engine.schedule.take
  let next := { engine with schedule := taken.2 }
  if taken.1 then (some next.refresh.stylesheet, next.refresh) else (none, next)

/-- Rebuild at once and drop the pending rebuild. -/
def rebuild (engine : Engine) : Text × Engine :=
  let next := { engine with schedule := engine.schedule.cancel }.refresh
  (next.stylesheet, next)

/-- Forget all class names and the stylesheet. -/
def reset (engine : Engine) : Engine :=
  { engine with
    processed := .empty
    store := .empty
    schedule := engine.schedule.cancel
    stylesheet := []
    failed := 0 }

/-! ## Settings and sources -/

/-- Choose how much is reported. -/
def setVerbose (engine : Engine) (verbose : Bool) : Engine :=
  { engine with options := { engine.options with verbose := verbose } }

/-- Note that a source cannot be read.  A source is listed once, with the latest
reason. -/
def blockSource (engine : Engine) (source reason : Text) : Engine :=
  { engine.report [.sourceSkipped source reason] with
    blocked := engine.blocked.insert source reason }

/-- The sources that could not be read. -/
def blockedSources (engine : Engine) : List BlockedSource :=
  engine.blocked.entries.map fun entry => ⟨entry.1, entry.2⟩

/-! ## In one step -/

/-- An engine with the built-in tables.  Its viewport is that of the options. -/
def ofAmbient (ambient : Ambient) (options : Options) : Engine :=
  start ⟨.standard, { ambient with viewport := options.viewport }⟩ options

/-- The stylesheet of class names. -/
def compile (ambient : Ambient) (options : Options) (classNames : List Text) : Text :=
  ((ofAmbient ambient options).processAll classNames).2.rebuild.1

end Engine

end AtomicCss
