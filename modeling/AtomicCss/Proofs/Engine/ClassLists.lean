import AtomicCss.Proofs.Engine.Session
import AtomicCss.Proofs.Scan

/-!
Contract: a text without quotes and angle brackets leaves the same in an engine, whether it is
searched for class names or read as a list of them.

Owns:
- class names handed over more than once;
- engines that differ in the bare scheme only, which class names keep as they are;
- the main statement about the two ways.

Does not own: texts with markup in them.

## The bare scheme

The search wants a character after the scheme, a list does not.  So the word that is the scheme
and nothing else reaches the engine by the list alone.  It is rejected there, which shows among
the class names taken in, in the number of those rejected and in what is reported.
-/

namespace AtomicCss.Engine

/-! ## Repeated class names -/

theorem mem_processed_process {engine : Engine} {className other : Text} :
    other ∈ (engine.process className).2.processed.members ↔
      other ∈ engine.processed.members ∨
        other = className ∧ Text.startsWith Grammar.scheme className = true := by
  cases taken : engine.takes className with
  | false =>
      rw [process_of_not_takes taken]
      refine ⟨Or.inl, ?_⟩
      rintro (known | ⟨rfl, scheme⟩)
      · exact known
      · simpa [takes, scheme, OrderedSet.contains] using taken
  | true =>
      have scheme := (Bool.and_eq_true_iff.1 taken).1
      rw [processed_process taken, List.mem_append, List.mem_singleton, and_iff_left scheme]

theorem mem_processed_processAll {engine : Engine} {classNames : List Text} {other : Text} :
    other ∈ (engine.processAll classNames).2.processed.members ↔
      other ∈ engine.processed.members ∨
        other ∈ classNames ∧ Text.startsWith Grammar.scheme other = true := by
  induction classNames using List.reverseRecOn with
  | nil => simp [processAll]
  | append_singleton earlier className inductionHypothesis =>
      rw [processAll_append_singleton, mem_processed_process, inductionHypothesis, or_assoc,
        List.mem_append, List.mem_singleton]
      refine or_congr_right ⟨?_, ?_⟩
      · rintro (⟨member, scheme⟩ | ⟨rfl, scheme⟩)
        · exact ⟨Or.inl member, scheme⟩
        · exact ⟨Or.inr rfl, scheme⟩
      · rintro ⟨member | rfl, scheme⟩
        · exact Or.inl ⟨member, scheme⟩
        · exact Or.inr ⟨rfl, scheme⟩

/-- Of class names that are handed over together an engine takes in those that it would have
taken in at first, each when it is named first. -/
theorem takes_processAll_iff {engine : Engine} {classNames : List Text} {className : Text} :
    (engine.processAll classNames).2.takes className = true ↔
      engine.takes className = true ∧ className ∉ classNames := by
  rw [takes_eq_true_iff, takes_eq_true_iff, mem_processed_processAll, not_or, and_assoc]
  refine and_congr_right fun scheme => and_congr_right fun _ => ?_
  rw [and_iff_left scheme]

/-- Leaving repetitions out changes neither the answer nor the engine. -/
theorem processAll_ofList (engine : Engine) (classNames : List Text) :
    engine.processAll (OrderedSet.ofList classNames).members = engine.processAll classNames := by
  induction classNames using List.reverseRecOn with
  | nil => rfl
  | append_singleton earlier className inductionHypothesis =>
      rw [OrderedSet.members_ofList_append_singleton, processAll_append_singleton]
      by_cases known : className ∈ earlier
      · have refused : (engine.processAll earlier).2.takes className = false :=
          Bool.eq_false_iff.2 fun taken => (takes_processAll_iff.1 taken).2 known
        rw [if_pos known, inductionHypothesis]
        dsimp only
        rw [process_of_not_takes refused]
        rfl
      · rw [if_neg known, processAll_append_singleton, inductionHypothesis]

/-! ## The bare scheme -/

/-- What is reported when the bare scheme is taken in. -/
def schemeRejected : Notice :=
  .classRejected (.parse Grammar.scheme .noParts)

/-- How often the first of two engines has taken in the bare scheme when the second has not. -/
def bareCount (listed scanned : Engine) : Nat :=
  if listed.isProcessed Grammar.scheme && !scanned.isProcessed Grammar.scheme then 1 else 0

theorem bareCount_eq (listed scanned : Engine) :
    bareCount listed scanned =
      if Grammar.scheme ∈ listed.processed.members ∧
          Grammar.scheme ∉ scanned.processed.members then 1
      else 0 := by
  simp [bareCount, isProcessed, OrderedSet.contains]

/-- Two engines are the same but for the bare scheme, which the first may have taken in when
the second has not. -/
structure AgreesButScheme (listed scanned : Engine) : Prop where
  environment : listed.environment = scanned.environment
  options : listed.options = scanned.options
  store : listed.store = scanned.store
  schedule : listed.schedule = scanned.schedule
  stylesheet : listed.stylesheet = scanned.stylesheet
  blocked : listed.blocked = scanned.blocked
  processed :
    (listed.processed.members.filter fun className => className ≠ Grammar.scheme) =
      scanned.processed.members.filter fun className => className ≠ Grammar.scheme
  kept :
    Grammar.scheme ∈ scanned.processed.members → Grammar.scheme ∈ listed.processed.members
  failed : listed.failed = scanned.failed + bareCount listed scanned
  notices :
    (listed.notices.filter fun notice => notice ≠ schemeRejected) =
      scanned.notices.filter fun notice => notice ≠ schemeRejected

namespace AgreesButScheme

theorem refl (engine : Engine) : AgreesButScheme engine engine where
  environment := rfl
  options := rfl
  store := rfl
  schedule := rfl
  stylesheet := rfl
  blocked := rfl
  processed := rfl
  kept := id
  failed := by simp [bareCount]
  notices := rfl

variable {listed scanned : Engine}

theorem mem_processed
    (agree : AgreesButScheme listed scanned)
    {className : Text}
    (differs : className ≠ Grammar.scheme) :
    className ∈ listed.processed.members ↔ className ∈ scanned.processed.members := by
  have members (engine : Engine) : className ∈ engine.processed.members ↔
      className ∈ engine.processed.members.filter fun other => other ≠ Grammar.scheme := by
    simp [differs]
  rw [members listed, members scanned, agree.processed]

theorem contains_eq
    (agree : AgreesButScheme listed scanned)
    {className : Text}
    (differs : className ≠ Grammar.scheme) :
    listed.processed.contains className = scanned.processed.contains className := by
  rw [OrderedSet.contains, OrderedSet.contains]
  exact decide_eq_decide.2 (agree.mem_processed differs)

/-- A class name that is more than the scheme does the same to both engines. -/
theorem process
    (agree : AgreesButScheme listed scanned)
    {className : Text}
    (differs : className ≠ Grammar.scheme) :
    (listed.process className).1 = (scanned.process className).1 ∧
      AgreesButScheme (listed.process className).2 (scanned.process className).2 := by
  have takes : listed.takes className = scanned.takes className := by
    rw [Engine.takes, Engine.takes, agree.contains_eq differs]
  cases taken : scanned.takes className with
  | false =>
      rw [process_of_not_takes taken, process_of_not_takes (takes.trans taken)]
      exact ⟨rfl, agree⟩
  | true =>
      have bare (engine : Engine) :
          Grammar.scheme ∈ (engine.process className).2.processed.members ↔
            Grammar.scheme ∈ engine.processed.members := by
        rw [mem_processed_process]
        exact or_iff_left fun same => differs same.1.symm
      have count : bareCount (listed.process className).2 (scanned.process className).2 =
          bareCount listed scanned := by
        rw [bareCount_eq, bareCount_eq]
        exact if_congr (and_congr (bare listed) (not_congr (bare scanned))) rfl rfl
      have kept := agree.kept
      rw [← bare listed, ← bare scanned] at kept
      have inserted := processed_process taken
      have inserted' := processed_process (takes.trans taken)
      rw [process_of_takes taken, process_of_takes (takes.trans taken)] at *
      -- Both engines read the class name alike, so the same is added to both.
      obtain ⟨read, rejects, notices⟩ := reads_congr agree.environment agree.options className
      refine ⟨by rw [read], ?_⟩
      exact
        { environment := agree.environment
          options := agree.options
          store := by rw [agree.store, read]
          schedule := by rw [agree.schedule, read]
          stylesheet := agree.stylesheet
          blocked := agree.blocked
          processed := by
            rw [inserted, inserted', List.filter_append, List.filter_append, agree.processed]
          kept := kept
          failed := by
            rw [count, rejects, agree.failed, Nat.add_right_comm]
          notices := by
            rw [List.filter_append, List.filter_append, agree.notices, notices] }

/-- The bare scheme is answered with no, and nothing else shows of it. -/
theorem process_scheme (agree : AgreesButScheme listed scanned) :
    (listed.process Grammar.scheme).1 = false ∧
      AgreesButScheme (listed.process Grammar.scheme).2 scanned := by
  cases taken : listed.takes Grammar.scheme with
  | false =>
      rw [process_of_not_takes taken]
      exact ⟨rfl, agree⟩
  | true =>
      have fresh := not_mem_of_takes taken
      have fresh' : Grammar.scheme ∉ scanned.processed.members := fun member =>
        fresh (agree.kept member)
      have uncounted : bareCount listed scanned = 0 :=
        (bareCount_eq listed scanned).trans (if_neg fun both => fresh both.1)
      have one : bareCount (listed.process Grammar.scheme).2 scanned = 1 :=
        (bareCount_eq _ scanned).trans
          (if_pos ⟨mem_processed_process.2 (Or.inr ⟨rfl, by decide⟩), fresh'⟩)
      have inserted := processed_process taken
      rw [process_of_takes taken] at inserted one ⊢
      have read : listed.contribution? Grammar.scheme = none := by rfl
      refine ⟨by rw [read]; rfl, ?_⟩
      exact
        { environment := agree.environment
          options := agree.options
          store := by
            rw [read]
            exact agree.store
          schedule := by
            rw [read]
            exact agree.schedule
          stylesheet := agree.stylesheet
          blocked := agree.blocked
          processed := by
            rw [inserted, List.filter_append, agree.processed]
            simp
          kept := fun member => absurd member fresh'
          failed := by
            rw [one, agree.failed, uncounted]
            rfl
          notices := by
            have reported : listed.noticesOf Grammar.scheme = [schemeRejected] := by rfl
            rw [reported, List.filter_append, agree.notices]
            simp }

/-- By induction on the words from the last one back: each is foreign to the engine, the bare
scheme, or a class name that both ways hand over. -/
theorem processAll (engine : Engine) (words : List Text) :
    (engine.processAll words).1 = (engine.processAll (words.filter Scan.isName)).1 ∧
      AgreesButScheme (engine.processAll words).2
        (engine.processAll (words.filter Scan.isName)).2 := by
  induction words using List.reverseRecOn with
  | nil => exact ⟨rfl, refl engine⟩
  | append_singleton earlier word inductionHypothesis =>
      obtain ⟨count, agree⟩ := inductionHypothesis
      rw [processAll_append_singleton, List.filter_append]
      cases name : Scan.isName word with
      | true =>
          have differs : word ≠ Grammar.scheme := by
            rintro rfl
            cases name
          obtain ⟨answer, next⟩ := agree.process differs
          rw [List.filter_cons_of_pos name, List.filter_nil, processAll_append_singleton]
          dsimp only
          rw [answer, count]
          exact ⟨rfl, next⟩
      | false =>
          rw [List.filter_cons_of_neg (by simp [name]), List.filter_nil, List.append_nil]
          dsimp only
          by_cases bare : word = Grammar.scheme
          · subst bare
            obtain ⟨answer, next⟩ := agree.process_scheme
            rw [answer]
            exact ⟨count, next⟩
          · have foreign : (engine.processAll earlier).2.takes word = false := by
              have unmarked : Text.startsWith Grammar.scheme word = false := by
                simpa [Scan.isName, bare] using name
              rw [takes, unmarked, Bool.false_and]
            rw [process_of_not_takes foreign]
            exact ⟨count, agree⟩

theorem eq_with (agree : AgreesButScheme listed scanned) :
    listed =
      { scanned with
        processed := listed.processed
        failed := listed.failed
        notices := listed.notices } := by
  rw [← agree.environment, ← agree.options, ← agree.store, ← agree.schedule,
    ← agree.stylesheet, ← agree.blocked]

theorem size_processed (agree : AgreesButScheme listed scanned) :
    listed.processed.size = scanned.processed.size + bareCount listed scanned := by
  have size (engine : Engine) : engine.processed.size =
      (engine.processed.members.filter fun className => className ≠ Grammar.scheme).length +
        if Grammar.scheme ∈ engine.processed.members then 1 else 0 := by
    rw [← engine.processed.distinct.count, OrderedSet.size,
      List.length_eq_length_filter_add fun className => className ≠ Grammar.scheme]
    simp [List.count_eq_length_filter, beq_eq_decide]
  rw [size listed, size scanned, agree.processed]
  have kept := agree.kept
  by_cases known : Grammar.scheme ∈ scanned.processed.members
  · simp [bareCount_eq, known, kept known]
  · simp [bareCount_eq, known]

end AgreesButScheme

/-! ## The two ways -/

/-- Whatever an engine has gone through: after a text without quotes and angle brackets it is the
same, down to the order of insertion, whether the words of the text or the class names found in
it were taken in, and as many of them were answered with yes.  Only the bare scheme, if it is a
word of the text and new, is counted as taken in and as rejected, and reported, for the words
alone. -/
theorem processList_eq_scanned
    (engine : Engine)
    (text : Text)
    (plain : ∀ character ∈ text, character ∉ Scan.quotesAndBrackets) :
    let listed := engine.processList text
    let scanned := engine.processAll (Scan.classNames text)
    let bare :=
      if Grammar.scheme ∈ Text.words text ∧ Grammar.scheme ∉ engine.processed.members then 1
      else 0
    listed.1 = scanned.1 ∧
    listed.2.store = scanned.2.store ∧
    listed.2.rebuild.1 = scanned.2.rebuild.1 ∧
    listed.2 =
      { scanned.2 with
        processed := listed.2.processed
        failed := listed.2.failed
        notices := listed.2.notices } ∧
    (∀ className, className ≠ Grammar.scheme →
      listed.2.isProcessed className = scanned.2.isProcessed className) ∧
    listed.2.processed.size = scanned.2.processed.size + bare ∧
    listed.2.failed = scanned.2.failed + bare ∧
    (listed.2.notices.filter fun notice => notice ≠ schemeRejected) =
      scanned.2.notices.filter fun notice => notice ≠ schemeRejected := by
  intro listed scanned bare
  have found : scanned = engine.processAll ((Text.words text).filter Scan.isName) := by
    rw [← processAll_ofList, ← Scan.classNames_of_plain plain]
  obtain ⟨count, agree⟩ : listed.1 = scanned.1 ∧ AgreesButScheme listed.2 scanned.2 := by
    rw [found]
    exact AgreesButScheme.processAll engine (Text.words text)
  have counted : bareCount listed.2 scanned.2 = bare := by
    have unfound : Grammar.scheme ∉ (Text.words text).filter Scan.isName := by
      simp [Scan.isName_scheme]
    have marked : Text.startsWith Grammar.scheme Grammar.scheme = true := by decide
    refine (bareCount_eq listed.2 scanned.2).trans (if_congr ?_ rfl rfl)
    rw [found]
    show Grammar.scheme ∈ (engine.processAll (Text.words text)).2.processed.members ∧ _ ↔ _
    rw [mem_processed_processAll, mem_processed_processAll]
    simp only [unfound, marked, or_false, and_true]
    exact ⟨fun ⟨either, fresh⟩ => ⟨either.resolve_left fresh, fresh⟩,
      fun ⟨word, fresh⟩ => ⟨Or.inr word, fresh⟩⟩
  refine ⟨count, agree.store, ?_, agree.eq_with, ?_, ?_, ?_, agree.notices⟩
  · show Stylesheet.write listed.2.options.canonical listed.2.store = _
    rw [agree.options, agree.store]
    rfl
  · intro className differs
    exact agree.contains_eq differs
  · rw [agree.size_processed, counted]
  · rw [agree.failed, counted]

/-- A word that is no class name, the bare scheme, and a class name twice. -/
theorem processList_eq_scanned_palette :
    let text := "card cssf-- cssf--tpl-red\ncssf--tpl-red".toList
    let engine := Engine.start ClassName.palette Options.standard
    let listed := (engine.processList text).2
    let scanned := (engine.processAll (Scan.classNames text)).2
    (∀ character ∈ text, character ∉ Scan.quotesAndBrackets) ∧
    Scan.classNames text = ["cssf--tpl-red".toList] ∧
    listed.store = scanned.store ∧
    listed.rebuild.1 = scanned.rebuild.1 ∧
    listed.processed.size = scanned.processed.size + 1 ∧
    listed.failed = scanned.failed + 1 := by
  intro text engine listed scanned
  have plain : ∀ character ∈ text, character ∉ Scan.quotesAndBrackets := by
    have all : text.all (fun character => character ∉ Scan.quotesAndBrackets) = true := by decide
    exact fun character member => of_decide_eq_true (List.all_eq_true.1 all character member)
  have bare : Grammar.scheme ∈ Text.words text ∧
      Grammar.scheme ∉ engine.processed.members := by decide
  obtain ⟨-, store, rebuilt, -, -, size, failed, -⟩ := processList_eq_scanned engine text plain
  rw [if_pos bare] at size failed
  exact ⟨plain, by rfl, store, rebuilt, size, failed⟩

end AtomicCss.Engine
