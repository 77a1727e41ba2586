import AtomicCss.CommandLine.Arguments
import AtomicCss.CommandLine.Report
import AtomicCss.Settings

/-!
Contract: running a command line on a host.

Owns:
- which of arguments, settings and defaults counts;
- the commands that build a stylesheet file, compile class names and check sources;
- what the program shows and the status that it ends with.

Does not own: the host, and how arguments are written.
-/

namespace AtomicCss.CommandLine

/-- The file that a stylesheet is written to when none is named. -/
def standardOutput : Text :=
  "cssf.css".toList

/-- The options of an engine: arguments before settings before defaults. -/
def optionsFor (settings : Settings) (verbose canonical : Bool) (ceiling : Option Nat) :
    Except Failure Options :=
  if ceiling = some 0 then
    .error (.invalidFormat "--max-depth must be at least 1".toList)
  else
    .ok {
      ceiling := (ceiling.or settings.ceiling).getD Grammar.defaultCeiling
      canonical := canonical || settings.canonical.getD false
      verbose := verbose
      viewport := settings.viewport }

/-- What class names are read with. -/
def environmentFor (ambient : Ambient) (settings : Settings) (options : Options) :
    Environment :=
  ⟨settings.lexicon, { ambient with viewport := options.viewport }⟩

/-! ## Compiling class names -/

/-- A stylesheet in an output format, as lines, with the notices that came up. -/
def formatted (format : OutputFormat) (classLists : List Text) (engine : Engine) :
    List Text × List Notice :=
  match format with
  | .css => ([engine.stylesheet], [])
  | .html => ([Stylesheet.styleElement engine.stylesheet], [])
  | .json => ([Json.write (engineDocument engine)], [])
  | .outline =>
      let shown := (classLists.flatMap Text.words).map
        (classOutline engine.environment engine.options.ceiling)
      (shown.map Prod.fst ++ [[], engine.stylesheet], shown.flatMap Prod.snd)

/-- Compile class names and show the stylesheet. -/
def compile (ambient : Ambient) (settings : Settings) (verbose : Bool)
    (request : CompileRequest) : Report :=
  match optionsFor settings verbose request.canonical none with
  | .error failure => .failed [] [] failure
  | .ok options =>
      let start := Engine.start (environmentFor ambient settings options) options
      let engine := (request.classLists.foldl
        (fun engine classList => (engine.processList classList).2) start).rebuild.2
      let (shown, notices) := formatted request.format request.classLists engine
      .done shown (engine.notices ++ notices)

/-! ## Checking sources -/

/-- A check under way: its numbers, what it has shown and the notices that came up. -/
structure CheckProgress where
  counts : CheckCounts
  shown : List Text
  notices : List Notice
deriving DecidableEq, Repr

/-- Check one class name. -/
def checkClass (environment : Environment) (ceiling : Nat) (progress : CheckProgress)
    (className : Text) : CheckProgress :=
  let counts := { progress.counts with classes := progress.counts.classes + 1 }
  match ClassName.read environment ceiling className with
  | .error fault =>
      { progress with
        counts := { counts with errors := counts.errors + 1 }
        shown := progress.shown ++ ["❌ ".toList ++ (Failure.parse className fault).message] }
  | .ok outcome =>
      let notices := progress.notices ++ outcome.notices
      match outcome.contribution with
      | some _ => { progress with counts := counts, notices := notices }
      | none =>
          { counts := { counts with empty := counts.empty + 1 }
            shown := progress.shown ++
              ["⚠️  ".toList ++ className ++ " produces no CSS".toList]
            notices := notices }

/-- Check one source. -/
def checkSource (environment : Environment) (ceiling : Nat) (progress : CheckProgress)
    (source : Source) : CheckProgress :=
  let announced := progress.shown ++ ["🔍 Checking ".toList ++ source.name]
  match source.content with
  | .error fault =>
      { progress with
        counts := { progress.counts with errors := progress.counts.errors + 1 }
        shown := announced ++
          ["❌ ".toList ++ source.name ++ " - ".toList ++ (Failure.file fault).message] }
  | .ok text =>
      (Scan.classNames text).foldl (checkClass environment ceiling)
        { progress with shown := announced }

/-- The report of a check that is over. -/
def checkReport (files : Nat) (progress : CheckProgress) : Report :=
  let shown := progress.shown ++ checkLines files progress.counts
  if 0 < progress.counts.errors then
    .failed shown progress.notices
      (.invalidFormat (Text.ofNat progress.counts.errors ++ " problems found".toList))
  else
    .done shown progress.notices

variable {m : Type → Type} [Monad m]

/-- Tell which class names of sources cannot be read or have no output. -/
def check (host : Host m) (ambient : Ambient) (settings : Settings) (verbose : Bool)
    (request : CheckRequest) : m Report := do
  let deep := request.recursive || settings.recursive.getD false
  match ← Inputs.ofPaths host deep settings.inputExtensions request.inputs with
  | .error failure => return .failed [] [] failure
  | .ok files =>
      match optionsFor settings verbose false none with
      | .error failure => return .failed [] [] failure
      | .ok options =>
          let environment := environmentFor ambient settings options
          let sources ← Engine.readSources host files
          return checkReport files.length
            (sources.foldl (checkSource environment options.ceiling) ⟨⟨0, 0, 0⟩, [], []⟩)

/-! ## Building a stylesheet file -/

/-- Make the directory of the output, and write the stylesheet to it. -/
def writeOutput (host : Host m) (output : Text) (scanned : Statistics × Engine) :
    m (Except Failure (Statistics × Engine)) := do
  match Path.parent? output with
  | none => Engine.writeStylesheet host output scanned
  | some directory =>
      match ← host.makeDirectories directory with
      | .error fault => return .error (.file fault)
      | .ok () => Engine.writeStylesheet host output scanned

/-- Build the stylesheet of input files once it is known what to build. -/
def buildWith (host : Host m) (request : BuildRequest) (extensions : List Text)
    (deep : Bool) (inputs : List Text) (output : Text) (start : Engine) : m Report := do
  let shown := [announcement inputs output]
  match ← Inputs.ofPaths host deep extensions inputs with
  | .error failure => return .failed shown [] failure
  | .ok files =>
      let scanned := start.scan (← Engine.readSources host files)
      match ← writeOutput host output scanned with
      | .error failure => return .failed shown scanned.2.notices failure
      | .ok (statistics, engine) =>
          return .done
            (shown ++ buildLines statistics (← host.elapsed) ++
              if request.statistics then statisticsLines statistics engine else [])
            engine.notices

/-- Build the stylesheet of input files. -/
def build (host : Host m) (ambient : Ambient) (settings : Settings) (verbose : Bool)
    (request : BuildRequest) : m Report := do
  let inputs := if request.inputs = [] then settings.inputs.getD [] else request.inputs
  if inputs = [] then
    return .failed [] [] (.invalidFormat
      ("No inputs given. Pass files or directories, or set \x60inputs\x60 in the " ++
        "config file.").toList)
  match optionsFor settings verbose request.canonical request.ceiling with
  | .error failure => return .failed [] [] failure
  | .ok options =>
      buildWith host request settings.inputExtensions
        (request.recursive || settings.recursive.getD false) inputs
        ((request.output.or settings.output).getD standardOutput)
        (.start (environmentFor ambient settings options) options)

/-! ## The program -/

/-- How a run of the program ends. -/
structure Outcome where
  status : Nat
  /-- The lines of the standard output. -/
  shown : List Text
  /-- The lines of the standard error output. -/
  complaints : List Text
deriving DecidableEq, Repr

/-- The line that tells why a command failed. -/
def failureLine : Failure → Text
  | .file fault => "IO Error: ".toList ++ fault.message
  | failure => "❌ ".toList ++ failure.message

/-- The line of a notice. -/
def noticeLine (notice : Notice) : Text :=
  (match notice.level with
    | .warning => "[WARN] "
    | .error => "[ERROR] ").toList ++ notice.message

/-- The outcome of a report. -/
def Report.outcome (report : Report) : Outcome where
  status := if report.failure.isSome then 1 else 0
  shown := report.shown
  complaints := report.notices.map noticeLine ++ report.failure.toList.map failureLine

/-- How the program is used. -/
def usage : Text :=
  ("Usage: cssf [-c FILE] [-v] build [INPUTS] [-o FILE] [-r] [--stats] [--canonical] " ++
    "[--max-depth N] | compile CLASSES [-f css|html|json|debug] [--canonical] | " ++
    "check INPUTS [-r]").toList

/-- The outcome of a command line that asks for nothing. -/
def Stop.outcome : Stop → Outcome
  | .misuse => ⟨2, [], [usage]⟩
  | .help => ⟨0, [usage], []⟩
  | .version => ⟨0, ["cssf 0.1.0".toList], []⟩

/-- Run the command of an invocation. -/
def perform (host : Host m) (ambient : Ambient) (settings : Settings)
    (invocation : Invocation) : m Report := do
  match invocation.command with
  | none =>
      return .done
        ["No subcommand specified. Use --help for usage information.".toList] []
  | some (.build request) => build host ambient settings invocation.verbose request
  | some (.compile request) => return compile ambient settings invocation.verbose request
  | some (.check request) => check host ambient settings invocation.verbose request

/-- Run the program. -/
def run (host : Host m) (ambient : Ambient) (arguments : List Text) : m Outcome := do
  match read arguments with
  | .error stop => return stop.outcome
  | .ok invocation =>
      let settings ← match invocation.settingsPath with
        | none => pure (.ok Settings.empty)
        | some path => Settings.load host path
      match settings with
      | .error failure => return (Report.failed [] [] failure).outcome
      | .ok settings => return (← perform host ambient settings invocation).outcome

end AtomicCss.CommandLine
