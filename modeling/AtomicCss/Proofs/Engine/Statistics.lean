import AtomicCss.Proofs.Engine.ClassLists
import AtomicCss.Proofs.Engine.Discovery
import AtomicCss.Proofs.Scan.Runs
import AtomicCss.Source

/-!
Contract: what the statistics of a scan count.

Owns:
- the class names of a source, and why a source could not be read;
- one source as a step of a scan, and what holds after any number of them;
- a scan of sources of which the engine knows all class names;
- the main statement about the statistics, and two sources that share a class name.

Does not own: reading the sources from files.

## Class names in several sources

The engine takes a class name in once, however many sources it stands in, and so the class names
that are new, the store and the notices are those of the set of all class names.  The number of
class names is added up source by source instead, and counts a class name in every source that it
stands in.
-/

namespace AtomicCss

open ClassName

/-! ## Sources -/

namespace Source

/-- The class names found in a source.  One that could not be read has none. -/
def names (source : Source) : List Text :=
  match source.content with
  | .ok text => Scan.classNames text
  | .error _ => []

/-- A source that could not be read, by its name, and the reason. -/
def fault? (source : Source) : Option (Text × Text) :=
  match source.content with
  | .ok _ => none
  | .error fault => some (source.name, (Failure.file fault).message)

theorem filterMap_fault?_append_singleton (sources : List Source) (source : Source) :
    (sources ++ [source]).filterMap fault? =
      sources.filterMap fault? ++ source.fault?.toList := by
  rw [List.filterMap_append]
  cases fault : source.fault? <;> simp [fault]

/-- Every source could be read or could not be. -/
theorem countP_add_length_faults (sources : List Source) :
    (sources.countP fun source => source.fault?.isNone) + (sources.filterMap fault?).length =
      sources.length := by
  induction sources with
  | nil => rfl
  | cons source others inductionHypothesis =>
      rw [List.countP_cons, List.filterMap_cons, List.length_cons, ← inductionHypothesis]
      cases source.fault? with
      | none => exact Nat.add_right_comm _ 1 _
      | some fault => rfl

theorem nodup_names (source : Source) : source.names.Nodup := by
  unfold names
  cases source.content with
  | ok text => exact (OrderedSet.ofList _).distinct
  | error fault => exact List.nodup_nil

theorem isName_of_mem_names
    {source : Source}
    {className : Text}
    (member : className ∈ source.names) :
    Scan.isName className = true := by
  unfold names at member
  cases content : source.content with
  | ok text =>
      rw [content] at member
      obtain ⟨_, found⟩ := Scan.mem_namesFrom_iff.1 (OrderedSet.mem_ofList.1 member)
      exact found.named
  | error fault =>
      rw [content] at member
      cases member

end Source

/-- The numbers with those added that sources decide on their own: how many were read, how many
class names each of them has, and how many were not read. -/
def Statistics.add (statistics : Statistics) (sources : List Source) : Statistics :=
  { statistics with
    sources := statistics.sources + sources.countP fun source => source.fault?.isNone
    classes := statistics.classes + (sources.flatMap Source.names).length
    blocked := statistics.blocked + (sources.filterMap Source.fault?).length }

theorem Statistics.add_append (statistics : Statistics) (first second : List Source) :
    statistics.add (first ++ second) = (statistics.add first).add second := by
  simp only [add, List.countP_append, List.flatMap_append, List.filterMap_append,
    List.length_append, Nat.add_assoc]

namespace Engine

/-- Note that sources cannot be read, one after the other. -/
def blockAll (engine : Engine) (faults : List (Text × Text)) : Engine :=
  { engine.report (faults.map fun fault => .sourceSkipped fault.1 fault.2) with
    blocked := engine.blocked.insertAll faults }

theorem blockAll_nil (engine : Engine) : engine.blockAll [] = engine := by
  simp only [blockAll, report, List.map_nil, List.append_nil, OrderedMap.insertAll,
    List.foldl_nil]

theorem blockAll_append (engine : Engine) (first second : List (Text × Text)) :
    engine.blockAll (first ++ second) = (engine.blockAll first).blockAll second := by
  simp only [blockAll, report, List.map_append, List.append_assoc, OrderedMap.insertAll_append]

/-- One source: its class names are taken in, or it is noted that it cannot be read. -/
theorem scanSource_eq (statistics : Statistics) (engine : Engine) (source : Source) :
    scanSource (statistics, engine) source =
      let taken := engine.processAll source.names
      ({ statistics.add [source] with generated := statistics.generated + taken.1 },
        taken.2.blockAll source.fault?.toList) := by
  cases content : source.content with
  | ok text =>
      simp [scanSource, Statistics.add, Source.names, Source.fault?, content, blockAll_nil]
  | error fault =>
      simp [scanSource, Statistics.add, Source.names, Source.fault?, content, processAll,
        blockAll, blockSource, report, OrderedMap.insertAll]

/-! ## Class names that are found -/

theorem rejects_of_isName
    (engine : Engine)
    {className : Text}
    (named : Scan.isName className = true) :
    engine.rejects className = false := by
  obtain ⟨body, written, rfl⟩ := Scan.isName_iff.1 named
  obtain ⟨outcome, done, -⟩ := exists_read engine.environment (partsOf_scheme_append written)
    engine.options.ceiling
  rw [rejects, done]

/-- Class names that are found can all be read. -/
theorem failed_processAll
    (engine : Engine)
    {classNames : List Text}
    (named : ∀ className ∈ classNames, Scan.isName className = true) :
    (engine.processAll classNames).2.failed = engine.failed := by
  induction classNames using List.reverseRecOn with
  | nil => rfl
  | append_singleton earlier className inductionHypothesis =>
      rw [List.forall_mem_append, List.forall_mem_singleton] at named
      rw [processAll_append_singleton, ← inductionHypothesis named.1]
      dsimp only
      cases taken : (engine.processAll earlier).2.takes className with
      | false => rw [process_of_not_takes taken]
      | true =>
          rw [process_of_takes taken, rejects_of_isName _ named.2]
          rfl

/-- Class names that leave the engine as it is do so together. -/
theorem processAll_of_idle
    (engine : Engine)
    {classNames : List Text}
    (idle : ∀ className ∈ classNames, engine.takes className = false) :
    engine.processAll classNames = (0, engine) := by
  induction classNames using List.reverseRecOn with
  | nil => rfl
  | append_singleton earlier className inductionHypothesis =>
      rw [List.forall_mem_append, List.forall_mem_singleton] at idle
      rw [processAll_append_singleton, inductionHypothesis idle.1]
      dsimp only
      rw [process_of_not_takes idle.2]
      rfl

/-- What is reported when class names are handed over is what is reported of the new ones. -/
theorem mem_notices_processAll {engine : Engine} {classNames : List Text} {notice : Notice} :
    notice ∈ (engine.processAll classNames).2.notices ↔
      notice ∈ engine.notices ∨
        ∃ className ∈ classNames,
          engine.takes className = true ∧ notice ∈ engine.noticesOf className := by
  induction classNames using List.reverseRecOn with
  | nil => simp [processAll]
  | append_singleton earlier className inductionHypothesis =>
      rw [processAll_append_singleton]
      simp only [List.mem_append, List.mem_singleton, or_and_right, exists_or, exists_eq_left]
      rw [← or_assoc, ← inductionHypothesis]
      cases taken : (engine.processAll earlier).2.takes className with
      | true =>
          obtain ⟨new, -⟩ := takes_processAll_iff.1 taken
          obtain ⟨environment, options, -⟩ := engine.processAll_keeps earlier
          have same := (reads_congr environment options className).2.2
          rw [process_of_takes taken, and_iff_right new, ← same]
          exact List.mem_append
      | false =>
          rw [process_of_not_takes taken]
          refine (or_iff_left_of_imp ?_).symm
          rintro ⟨new, reported⟩
          -- It is known only because it is among the earlier ones.
          have known : className ∈ earlier := by
            by_contra fresh
            rw [takes_processAll_iff.2 ⟨new, fresh⟩] at taken
            cases taken
          exact inductionHypothesis.2 (Or.inr ⟨className, known, new, reported⟩)

namespace TookIn

variable
  {environment : Environment}
  {options : Options}
  {classNames : List Text}
  {engine : Engine}

/-- The answer to further class names is how many contributions they bring. -/
theorem length_contributions
    (took : TookIn environment options classNames engine)
    (others : List Text) :
    (contributions environment options.ceiling (classNames ++ others)).length =
      (contributions environment options.ceiling classNames).length +
        (engine.processAll others).1 := by
  induction others using List.reverseRecOn with
  | nil => rw [List.append_nil]; rfl
  | append_singleton earlier className inductionHypothesis =>
      have reached := took.processFurther earlier
      rw [processAll_append_singleton, ← List.append_assoc]
      dsimp only
      cases taken : (engine.processAll earlier).2.takes className with
      | false =>
          rw [reached.contributions_of_idle taken, process_of_not_takes taken]
          exact inductionHypothesis
      | true =>
          rw [reached.contributions_of_taken taken, process_of_takes taken, List.length_append,
            inductionHypothesis, Nat.add_assoc]
          cases (engine.processAll earlier).2.contribution? className <;> rfl

/-- With what is reported of further class names, all of them are reported. -/
theorem reported_append_iff
    (took : TookIn environment options classNames engine)
    {others : List Text}
    (scheme : ∀ className ∈ others, Text.startsWith Grammar.scheme className = true)
    (notice : Notice) :
    ((∃ className ∈ classNames, notice ∈ engine.noticesOf className) ∨
        ∃ className ∈ others,
          engine.takes className = true ∧ notice ∈ engine.noticesOf className) ↔
      ∃ className ∈ classNames ++ others, notice ∈ engine.noticesOf className := by
  constructor
  · rintro (⟨className, earlier, reported⟩ | ⟨className, new, -, reported⟩)
    · exact ⟨className, List.mem_append_left _ earlier, reported⟩
    · exact ⟨className, List.mem_append_right _ new, reported⟩
  · rintro ⟨className, member, reported⟩
    cases taken : engine.takes className with
    | false =>
        refine Or.inl ⟨className, ?_, reported⟩
        exact (List.mem_append.1 member).elim id fun new =>
          took.known_of_idle taken (scheme className new)
    | true =>
        have fresh := ((took.takes_iff className).1 taken).2
        have new := (List.mem_append.1 member).resolve_left fresh
        exact Or.inr ⟨className, new, taken, reported⟩

theorem blockAll
    (took : TookIn environment options classNames engine)
    (faults : List (Text × Text)) :
    TookIn environment options classNames (engine.blockAll faults) :=
  ⟨took.environment_eq, took.options_eq, took.processed, took.store_eq⟩

end TookIn

/-! ## Scans -/

/-- Sources of which an engine knows all class names only have it note which of them could not be
read. -/
theorem foldl_scanSource_of_idle
    (statistics : Statistics)
    (engine : Engine)
    {sources : List Source}
    (idle : ∀ className ∈ sources.flatMap Source.names, engine.takes className = false) :
    sources.foldl scanSource (statistics, engine) =
      (statistics.add sources, engine.blockAll (sources.filterMap Source.fault?)) := by
  induction sources using List.reverseRecOn with
  | nil =>
      rw [List.filterMap_nil, blockAll_nil]
      rfl
  | append_singleton earlier source inductionHypothesis =>
      rw [List.flatMap_append, List.flatMap_singleton, List.forall_mem_append] at idle
      have known := processAll_of_idle
        (engine.blockAll (earlier.filterMap Source.fault?)) idle.2
      rw [List.foldl_append, inductionHypothesis idle.1, List.foldl_cons, List.foldl_nil,
        scanSource_eq, known, Statistics.add_append, Source.filterMap_fault?_append_singleton,
        blockAll_append]
      rfl

theorem scan_of_idle
    {engine : Engine}
    {sources : List Source}
    (idle : ∀ className ∈ sources.flatMap Source.names, engine.takes className = false) :
    engine.scan sources =
      ({ Statistics.zero.add sources with rules := engine.store.ruleCount },
        engine.blockAll (sources.filterMap Source.fault?)) := by
  have unfailed : engine.failed - engine.failed = 0 := Nat.sub_self engine.failed
  rw [scan, foldl_scanSource_of_idle Statistics.zero engine idle]
  dsimp only [blockAll, report]
  rw [unfailed]
  rfl

/-- What holds when a new engine has scanned sources. -/
structure Scanned (environment : Environment) (options : Options) (sources : List Source)
    (state : Statistics × Engine) : Prop where
  took : TookIn environment options (sources.flatMap Source.names) state.2
  counts :
    state.1 =
      { Statistics.zero.add sources with
        generated :=
          (contributions environment options.ceiling (sources.flatMap Source.names)).length }
  failed : state.2.failed = 0
  blocked : state.2.blocked = .ofList (sources.filterMap Source.fault?)
  mem_notices :
    ∀ notice, notice ∈ state.2.notices ↔
      (∃ className ∈ sources.flatMap Source.names,
        notice ∈ (Engine.start environment options).noticesOf className) ∨
      ∃ fault ∈ sources.filterMap Source.fault?, notice = .sourceSkipped fault.1 fault.2

namespace Scanned

variable
  {environment : Environment}
  {options : Options}
  {sources : List Source}
  {state : Statistics × Engine}

theorem start (environment : Environment) (options : Options) :
    Scanned environment options [] (.zero, Engine.start environment options) where
  took := TookIn.start
  counts := rfl
  failed := rfl
  blocked := rfl
  mem_notices := by simp [Engine.start]

theorem step (scanned : Scanned environment options sources state) (source : Source) :
    Scanned environment options (sources ++ [source]) (scanSource state source) := by
  obtain ⟨statistics, engine⟩ := state
  have took := scanned.took
  have reached := (took.processFurther source.names).blockAll source.fault?.toList
  have names : (sources ++ [source]).flatMap Source.names =
      sources.flatMap Source.names ++ source.names := by
    rw [List.flatMap_append, List.flatMap_singleton]
  have faults := Source.filterMap_fault?_append_singleton sources source
  rw [scanSource_eq]
  refine ⟨?_, ?_, ?_, ?_, ?_⟩
  · rw [names]
    exact reached
  · have before := scanned.counts
    dsimp only at before
    rw [names, took.length_contributions, Statistics.add_append, before]
    rfl
  · exact (failed_processAll engine fun _ => Source.isName_of_mem_names).trans scanned.failed
  · have before : (engine.processAll source.names).2.blocked = _ :=
      (engine.processAll_keeps source.names).2.2.trans scanned.blocked
    show (engine.processAll source.names).2.blocked.insertAll _ = _
    rw [before, faults, OrderedMap.ofList, ← OrderedMap.insertAll_append]
    rfl
  · intro notice
    have reports (className : Text) : engine.noticesOf className =
        (Engine.start environment options).noticesOf className :=
      (reads_congr took.environment_eq took.options_eq className).2.2
    have scheme : ∀ className ∈ source.names,
        Text.startsWith Grammar.scheme className = true := fun _ member =>
      (Bool.and_eq_true_iff.1 (Source.isName_of_mem_names member)).1
    have reported := took.reported_append_iff scheme notice
    show notice ∈ (engine.processAll source.names).2.notices ++ _ ↔ _
    rw [List.mem_append, mem_notices_processAll, scanned.mem_notices, names, faults]
    simp only [reports] at reported ⊢
    rw [or_assoc, or_or_or_comm, reported]
    refine or_congr_right ?_
    simp only [List.mem_append, List.mem_map, or_and_right, exists_or, eq_comm]

theorem run (environment : Environment) (options : Options) (sources : List Source) :
    Scanned environment options sources
      (sources.foldl scanSource (.zero, Engine.start environment options)) := by
  induction sources using List.reverseRecOn with
  | nil => exact start environment options
  | append_singleton earlier source inductionHypothesis =>
      rw [List.foldl_append]
      exact inductionHypothesis.step source

theorem scan_fst (environment : Environment) (options : Options) (sources : List Source) :
    let scanned := (Engine.start environment options).scan sources
    scanned.1 =
      { Statistics.zero.add sources with
        generated :=
          (contributions environment options.ceiling (sources.flatMap Source.names)).length
        rules := scanned.2.store.ruleCount } := by
  have scanned := run environment options sources
  rw [scan]
  dsimp only
  rw [scanned.counts, scanned.failed]
  rfl

end Scanned

theorem mem_blockedSources_iff {engine : Engine} {source reason : Text} :
    ⟨source, reason⟩ ∈ engine.blockedSources ↔ engine.blocked.get? source = some reason := by
  rw [OrderedMap.get?_eq_some_iff]
  simp [blockedSources]

/-- The statistics of sources that a new engine scans add up, whatever they hold and however they
overlap.  Every source is counted as read or as blocked; the class names that have output, the
store and the notices are those of the distinct class names of all sources, none of which fails;
and each source that could not be read is listed once, with its latest reason.  The class names
alone are counted source by source, which is the number of distinct ones exactly when no two
sources share any.  The same sources once more, under whatever readings, give the same statistics
with nothing generated, and leave the engine as it is but for its notices. -/
theorem scan_statistics
    (environment : Environment)
    (options : Options)
    (sources : List Source)
    (later : Ambient) :
    let engine := Engine.start environment options
    let first := engine.scan sources
    let again := (first.2.observe later).scan sources
    let found := (OrderedSet.ofList (sources.flatMap Source.names)).members
    let faults := sources.filterMap Source.fault?
    first.1.sources + first.1.blocked = sources.length ∧
    first.1.blocked = faults.length ∧
    first.1.classes = (sources.map fun source => source.names.length).sum ∧
    found.length ≤ first.1.classes ∧
    (first.1.classes = found.length ↔
      sources.Pairwise fun one other => one.names.Disjoint other.names) ∧
    first.1.generated =
      (found.countP fun className =>
        (ClassName.contribution? environment options.ceiling className).isSome) ∧
    first.1.failed = 0 ∧
    first.1.rules = first.2.store.ruleCount ∧
    first.2.store =
      Store.empty.insertAll
        (found.filterMap (ClassName.contribution? environment options.ceiling)) ∧
    first.2.blockedSources.map BlockedSource.source =
      (OrderedSet.ofList (faults.map Prod.fst)).members ∧
    (∀ source reason,
      ⟨source, reason⟩ ∈ first.2.blockedSources ↔
        (faults.filter fun fault => fault.1 = source).getLast?.map Prod.snd = some reason) ∧
    (∀ notice,
      notice ∈ first.2.notices ↔
        (∃ className ∈ found, notice ∈ engine.noticesOf className) ∨
        ∃ fault ∈ faults, notice = .sourceSkipped fault.1 fault.2) ∧
    again.1 = { first.1 with generated := 0 } ∧
    again.2 = { first.2.observe later with notices := again.2.notices } := by
  intro engine first again found faults
  have scanned : Scanned environment options sources _ := Scanned.run environment options sources
  have counts : first.1 = _ := Scanned.scan_fst environment options sources
  have classes : first.1.classes = (sources.flatMap Source.names).length :=
    (congrArg Statistics.classes counts).trans (Nat.zero_add _)
  have blocked : first.1.blocked = faults.length :=
    (congrArg Statistics.blocked counts).trans (Nat.zero_add _)
  have listed : first.2.blocked = .ofList faults := scanned.blocked
  have known : ∀ className ∈ sources.flatMap Source.names,
      (first.2.observe later).takes className = false := by
    intro className member
    refine Bool.eq_false_iff.2 fun taken => ?_
    exact ((scanned.took.takes_iff className).1 taken).2 member
  refine ⟨?_, blocked, ?_, ?_, ?_, ?_, ?_, rfl, scanned.took.store_eq, ?_, ?_, ?_, ?_, ?_⟩
  · have read : first.1.sources = sources.countP fun source => source.fault?.isNone :=
      (congrArg Statistics.sources counts).trans (Nat.zero_add _)
    rw [read, blocked, Source.countP_add_length_faults]
  · rw [classes, List.length_flatMap]
  · rw [classes]
    exact (OrderedSet.sublist_ofList _).length_le
  · rw [classes, eq_comm, OrderedSet.length_ofList_eq_iff, List.nodup_flatMap]
    exact and_iff_right fun source _ => source.nodup_names
  · rw [counts, ← List.length_filterMap_eq_countP]
    rfl
  · rw [counts]
    rfl
  · rw [← OrderedMap.keySet_ofList, ← listed]
    exact List.map_map
  · intro source reason
    rw [mem_blockedSources_iff, listed, OrderedMap.get?_ofList]
  · intro notice
    simp only [found, OrderedSet.mem_ofList]
    exact scanned.mem_notices notice
  · rw [counts]
    exact congrArg Prod.fst (scan_of_idle known)
  · have relisted : first.2.blocked.insertAll faults = first.2.blocked := by
      rw [listed]
      exact (OrderedMap.insertAll_append .empty faults faults).symm.trans
        (OrderedMap.ofList_append_self faults)
    have kept : again.2 =
        { (first.2.observe later).report
            (faults.map fun fault => .sourceSkipped fault.1 fault.2) with
          blocked := first.2.blocked.insertAll faults } :=
      congrArg Prod.snd (scan_of_idle known)
    rw [kept, relisted]
    rfl

/-- A class name in two sources is counted twice. -/
theorem scan_counts_shared_twice :
    let sources : List Source :=
      [⟨"a.html".toList, .ok "cssf--c_red".toList⟩, ⟨"b.html".toList, .ok "cssf--c_red".toList⟩]
    let scanned := (Engine.ofAmbient palette.ambient Options.standard).scan sources
    (OrderedSet.ofList (sources.flatMap Source.names)).members = ["cssf--c_red".toList] ∧
    scanned.1.classes = 2 := by
  intro sources scanned
  have names : Scan.classNames "cssf--c_red".toList = ["cssf--c_red".toList] := by decide
  have each (name : Text) :
      Source.names ⟨name, .ok "cssf--c_red".toList⟩ = ["cssf--c_red".toList] := names
  have counts := (Scanned.run ⟨.standard, { palette.ambient with viewport := none }⟩
    Options.standard sources).counts
  refine ⟨?_, (congrArg Statistics.classes counts).trans ?_⟩
  · simp only [sources, List.flatMap_cons, List.flatMap_nil, each]
    rfl
  · simp only [sources, Statistics.add, List.flatMap_cons, List.flatMap_nil, each]
    rfl

end Engine

end AtomicCss
