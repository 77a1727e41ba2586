import AtomicCss.Engine
import AtomicCss.Files.Host
import AtomicCss.Scan

/-!
Contract: taking the class names of sources into an engine.

Owns:
- sources, which are texts or could not be read;
- the statistics of a build;
- scanning sources, and compiling one file into another.

Does not own: which files are sources.
-/

namespace AtomicCss

/-- A source with its text, or with the reason why it could not be read. -/
structure Source where
  name : Text
  content : Except FileFault Text

/-- The numbers that describe a build. -/
structure Statistics where
  /-- The sources that could be read. -/
  sources : Nat
  /-- The distinct class names of each source, added up. -/
  classes : Nat
  /-- The class names that were new and have output. -/
  generated : Nat
  /-- The class names that could not be read. -/
  failed : Nat
  /-- The sources that could not be read. -/
  blocked : Nat
  /-- The rules in the store. -/
  rules : Nat
  /-- The size of the stylesheet in bytes. -/
  output : Nat
deriving DecidableEq, Repr

/-- The numbers before anything is done. -/
def Statistics.zero : Statistics :=
  ⟨0, 0, 0, 0, 0, 0, 0⟩

namespace Engine

/-- Take the class names of one source in, or note that it is blocked. -/
def scanSource (state : Statistics × Engine) (source : Source) : Statistics × Engine :=
  let (statistics, engine) := state
  match source.content with
  | .ok text =>
      let names := Scan.classNames text
      let taken := engine.processAll names
      ({ statistics with
          sources := statistics.sources + 1
          classes := statistics.classes + names.length
          generated := statistics.generated + taken.1 },
        taken.2)
  | .error fault =>
      ({ statistics with blocked := statistics.blocked + 1 },
        engine.blockSource source.name (Failure.file fault).message)

/-- Take the class names of sources in, one source after the other. -/
def scan (engine : Engine) (sources : List Source) : Statistics × Engine :=
  let scanned := sources.foldl scanSource (.zero, engine)
  ({ scanned.1 with
      failed := scanned.2.failed - engine.failed
      rules := scanned.2.store.ruleCount },
    scanned.2)

variable {m : Type → Type} [Monad m]

/-- Read files as sources. -/
def readSources (host : Host m) : List Text → m (List Source)
  | [] => return []
  | path :: others => do
      let content ← host.read path
      return ⟨path, content⟩ :: (← readSources host others)

/-- Write the stylesheet of an engine to a file, and note its size. -/
def writeStylesheet (host : Host m) (path : Text) (scanned : Statistics × Engine) :
    m (Except Failure (Statistics × Engine)) := do
  let (css, engine) := scanned.2.rebuild
  match ← host.write path css with
  | .error fault => return .error (.file fault)
  | .ok () => return .ok ({ scanned.1 with output := Text.byteSize css }, engine)

/-- Compile the class names of one file and write the stylesheet to another.
Nothing is written when the file cannot be read. -/
def compileFile (host : Host m) (ambient : Ambient) (options : Options)
    (input output : Text) : m (Except Failure Statistics) := do
  if (← host.kind? input) ≠ some .file then
    return .error (.fileNotFound input)
  let scanned := (ofAmbient ambient options).scan [⟨input, ← host.read input⟩]
  match scanned.2.blockedSources with
  | blocked :: _ =>
      return .error (.fileNotFound (blocked.source ++ ": ".toList ++ blocked.reason))
  | [] => return (← writeStylesheet host output scanned).map Prod.fst

end Engine

end AtomicCss
