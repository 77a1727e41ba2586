import AtomicCss.Proofs.ClassName.Joining
import AtomicCss.Proofs.ClassName.Range
import AtomicCss.Proofs.Scan

/-!
Contract: the class names of a text are the runs of characters that look like one.

Owns:
- the places of a text where a class name stands;
- that the search finds what stands there and nothing else, in the order of the places;
- that class names found in a text are found again side by side, and can be read.

Does not own: texts that are cut into words, and what class names contribute.

## Why no place is lost

The search looks at every place and never skips the rest of a name that it found.  Inside a name
it finds nothing, as no character of a name is one that a further name could begin after.  So what
is found from a place on depends on the text from there on and on the character before it alone.
-/

namespace AtomicCss.Scan

/-! ## Places -/

/-- A class name stands in a text after the text before it: it has the scheme and more, it begins
at a boundary, and it goes on as far as characters of names do.  The flag tells that the front of
the text is a boundary. -/
structure Found (atBoundary : Bool) (text before name : Text) : Prop where
  named : isName name = true
  characters : ∀ character ∈ name, isNameCharacter character = true
  begins : before.getLast?.elim atBoundary isBoundary = true
  ends :
    ∃ after, text = before ++ (name ++ after) ∧
      ∀ character ∈ after.head?, isNameCharacter character = false

theorem isName_iff {word : Text} :
    isName word = true ↔ ∃ rest, rest ≠ [] ∧ word = Grammar.scheme ++ rest := by
  rw [isName, Bool.and_eq_true, decide_eq_true_eq, Text.startsWith_iff_prefix]
  constructor
  · rintro ⟨⟨rest, rfl⟩, more⟩
    exact ⟨rest, fun none => more (by rw [none, List.append_nil]), rfl⟩
  · rintro ⟨rest, written, rfl⟩
    exact ⟨List.prefix_append _ _, fun same => written (List.append_right_eq_self.1 same)⟩

/-- At a boundary the name at the front of a text is the one that stands there. -/
theorem nameAt?_eq_some_iff {text name : Text} :
    nameAt? text = some name ↔ Found true text [] name := by
  constructor
  · intro found
    obtain ⟨rest, cut, run⟩ := Option.bind_eq_some_iff.1 found
    obtain rfl := Text.after?_eq_some_iff.1 cut
    have written : rest.takeWhile isNameCharacter ≠ [] := by
      intro none
      simp [none] at run
    obtain rfl : Grammar.scheme ++ rest.takeWhile isNameCharacter = name := by
      simpa [written] using run
    refine ⟨isName_iff.2 ⟨_, written, rfl⟩, ?_, rfl, rest.dropWhile isNameCharacter, ?_, ?_⟩
    · intro character member
      rcases List.mem_append.1 member with scheme | inside
      · exact List.all_eq_true.1 (by decide) character scheme
      · exact List.mem_takeWhile_imp inside
    · rw [List.nil_append, List.append_assoc, List.takeWhile_append_dropWhile]
    · intro character next
      have stopped := List.head?_dropWhile_not isNameCharacter rest
      rw [Option.mem_def.1 next] at stopped
      exact stopped
  · rintro ⟨named, characters, -, after, rfl, ends⟩
    obtain ⟨run, written, rfl⟩ := isName_iff.1 named
    have inside : ∀ character ∈ run, isNameCharacter character = true :=
      fun character member => characters character (List.mem_append_right _ member)
    have stops : after.takeWhile isNameCharacter = [] := by
      cases after with
      | nil => rfl
      | cons character later => simp [ends character rfl]
    rw [nameAt?, List.nil_append, List.append_assoc, Text.after?_append, Option.bind_some,
      List.takeWhile_append_of_pos inside, stops, List.append_nil]
    exact if_neg written

theorem found_nil_iff {atBoundary : Bool} {text name : Text} :
    Found atBoundary text [] name ↔ atBoundary = true ∧ nameAt? text = some name := by
  rw [nameAt?_eq_some_iff]
  constructor
  · rintro ⟨named, characters, begins, ends⟩
    exact ⟨begins, named, characters, rfl, ends⟩
  · rintro ⟨begins, named, characters, -, ends⟩
    exact ⟨named, characters, begins, ends⟩

/-- Beyond the front it makes no difference whether a name can begin there. -/
theorem found_cons_iff
    {atBoundary : Bool}
    {character first : Char}
    {rest before name : Text} :
    Found atBoundary (character :: rest) (first :: before) name ↔
      first = character ∧ Found (isBoundary character) rest before name := by
  have boundary : (first :: before).getLast?.elim atBoundary isBoundary =
      before.getLast?.elim (isBoundary first) isBoundary := by
    rw [List.getLast?_cons]
    cases before.getLast? <;> rfl
  constructor
  · rintro ⟨named, characters, begins, after, same, ends⟩
    rw [List.cons_append, List.cons.injEq] at same
    obtain ⟨rfl, rfl⟩ := same
    rw [boundary] at begins
    exact ⟨rfl, named, characters, begins, after, rfl, ends⟩
  · rintro ⟨rfl, named, characters, begins, after, rfl, ends⟩
    exact ⟨named, characters, boundary.trans begins, after, rfl, ends⟩

theorem not_found_nil {atBoundary : Bool} {before name : Text} :
    ¬ Found atBoundary [] before name := by
  rintro ⟨named, -, -, after, same, -⟩
  obtain ⟨rest, -, rfl⟩ := isName_iff.1 named
  obtain ⟨-, tail⟩ := List.append_eq_nil_iff.1 same.symm
  obtain ⟨name, -⟩ := List.append_eq_nil_iff.1 tail
  exact absurd (List.append_eq_nil_iff.1 name).1 (by decide)

/-- Only one name can stand at the front. -/
theorem Found.eq_of_nil
    {atBoundary : Bool}
    {text one other : Text}
    (found : Found atBoundary text [] one)
    (again : Found atBoundary text [] other) :
    other = one := by
  have first := (found_nil_iff.1 found).2
  rw [(found_nil_iff.1 again).2] at first
  exact Option.some.inj first

/-- What stands at the front is found first. -/
theorem namesFrom_cons_of_found
    {atBoundary : Bool}
    {character : Char}
    {rest name : Text}
    (front : Found atBoundary (character :: rest) [] name) :
    namesFrom atBoundary (character :: rest) =
      name :: namesFrom (isBoundary character) rest := by
  obtain ⟨rfl, named⟩ := found_nil_iff.1 front
  simp [namesFrom, named]

theorem namesFrom_cons_of_not_found
    {atBoundary : Bool}
    {character : Char}
    {rest : Text}
    (elsewhere : ∀ name, ¬ Found atBoundary (character :: rest) [] name) :
    namesFrom atBoundary (character :: rest) = namesFrom (isBoundary character) rest := by
  simp only [found_nil_iff, not_and] at elsewhere
  rw [namesFrom]
  cases atBoundary with
  | false => rfl
  | true => simp [Option.eq_none_iff_forall_ne_some.2 fun name => elsewhere name rfl]

/-- What the search finds is what stands at some place. -/
theorem mem_namesFrom_iff {atBoundary : Bool} {text name : Text} :
    name ∈ namesFrom atBoundary text ↔ ∃ before, Found atBoundary text before name := by
  induction text generalizing atBoundary with
  | nil => simp [namesFrom, not_found_nil]
  | cons character rest inductionHypothesis =>
      have places : (∃ before, Found atBoundary (character :: rest) before name) ↔
          Found atBoundary (character :: rest) [] name ∨
            ∃ before, Found (isBoundary character) rest before name := by
        constructor
        · rintro ⟨before, found⟩
          cases before with
          | nil => exact .inl found
          | cons first before => exact .inr ⟨before, (found_cons_iff.1 found).2⟩
        · rintro (found | ⟨before, found⟩)
          · exact ⟨[], found⟩
          · exact ⟨character :: before, found_cons_iff.2 ⟨rfl, found⟩⟩
      by_cases front : ∃ first, Found atBoundary (character :: rest) [] first
      · obtain ⟨first, found⟩ := front
        rw [namesFrom_cons_of_found found, List.mem_cons, inductionHypothesis, places]
        exact or_congr_left ⟨fun same => same ▸ found, found.eq_of_nil⟩
      · rw [not_exists] at front
        rw [namesFrom_cons_of_not_found front, inductionHypothesis, places]
        exact (or_iff_right (front name)).symm

/-! ## Their order -/

/-- The one name stands before each place of the other. -/
def Precedes (atBoundary : Bool) (text one other : Text) : Prop :=
  ∃ before, Found atBoundary text before one ∧
    ∀ later, Found atBoundary text later other → before.length < later.length

/-- Names that are not at the front precede each other as they do in the rest. -/
theorem Precedes.cons
    {atBoundary : Bool}
    {character : Char}
    {rest one other : Text}
    (precedes : Precedes (isBoundary character) rest one other)
    (elsewhere : ¬ Found atBoundary (character :: rest) [] other) :
    Precedes atBoundary (character :: rest) one other := by
  obtain ⟨before, found, first⟩ := precedes
  refine ⟨character :: before, found_cons_iff.2 ⟨rfl, found⟩, ?_⟩
  intro later again
  cases later with
  | nil => exact absurd again elsewhere
  | cons next later => exact Nat.succ_lt_succ (first later (found_cons_iff.1 again).2)

/-- A name at the front precedes all others. -/
theorem Precedes.front
    {atBoundary : Bool}
    {text one other : Text}
    (found : Found atBoundary text [] one)
    (elsewhere : ¬ Found atBoundary text [] other) :
    Precedes atBoundary text one other := by
  refine ⟨[], found, fun later again => List.length_pos_iff.2 ?_⟩
  rintro rfl
  exact elsewhere again

/-- By induction on the text: a name at the front comes before all others, and those follow in
the order in which they stand in the rest. -/
theorem pairwise_precedes (atBoundary : Bool) (text : Text) :
    (OrderedSet.ofList (namesFrom atBoundary text)).members.Pairwise
      (Precedes atBoundary text) := by
  induction text generalizing atBoundary with
  | nil => exact List.Pairwise.nil
  | cons character rest inductionHypothesis =>
      have later := inductionHypothesis (isBoundary character)
      by_cases front : ∃ name, Found atBoundary (character :: rest) [] name
      · obtain ⟨name, found⟩ := front
        let others := (OrderedSet.ofList (namesFrom (isBoundary character) rest)).members.filter
          fun other => other ≠ name
        have elsewhere : ∀ other ∈ others, ¬ Found atBoundary (character :: rest) [] other := by
          intro other member again
          have different : other ≠ name := by simpa using (List.mem_filter.1 member).2
          exact different (found.eq_of_nil again)
        rw [namesFrom_cons_of_found found, OrderedSet.members_ofList_cons, List.pairwise_cons]
        refine ⟨fun other member => Precedes.front found (elsewhere other member), ?_⟩
        exact (later.filter _).imp_of_mem fun _ member precedes =>
          precedes.cons (elsewhere _ member)
      · rw [not_exists] at front
        rw [namesFrom_cons_of_not_found front]
        exact later.imp fun precedes => precedes.cons (front _)

/-! ## Side by side -/

theorem isSolid_of_isNameCharacter {character : Char} (plain : isNameCharacter character = true) :
    isSolid character = true ∧ character ∉ quotesAndBrackets := by
  simp only [isNameCharacter, isBoundary, Bool.and_eq_true, Bool.not_eq_true',
    Bool.or_eq_false_iff, decide_eq_true_eq, decide_eq_false_iff_not] at plain
  obtain ⟨⟨⟨⟨⟨solid, double⟩, single⟩, backtick⟩, opening⟩, closing⟩ := plain
  refine ⟨by rw [isSolid, solid]; rfl, ?_⟩
  simp only [quotesAndBrackets, List.mem_cons, List.not_mem_nil, not_or]
  exact ⟨double, single, backtick, opening, closing, not_false⟩

theorem plain_join
    {pieces : List Text}
    (plain : ∀ piece ∈ pieces, Plain piece) :
    Plain (Text.join ' ' pieces) := by
  induction pieces with
  | nil => exact fun character member => absurd member List.not_mem_nil
  | cons piece others inductionHypothesis =>
      rw [List.forall_mem_cons] at plain
      cases others with
      | nil => simpa [Text.join] using plain.1
      | cons next others =>
          rw [Text.join_cons piece (List.cons_ne_nil next others)]
          intro character member
          rcases List.mem_append.1 member with inside | later
          · exact plain.1 character inside
          · rcases List.mem_cons.1 later with rfl | further
            · decide
            · exact inductionHypothesis plain.2 character further

/-- Names that are put together with spaces are found again. -/
theorem classNames_join
    {names : List Text}
    (distinct : names.Nodup)
    (named : ∀ name ∈ names, isName name = true)
    (characters : ∀ name ∈ names, ∀ character ∈ name, isNameCharacter character = true) :
    classNames (Text.join ' ' names) = names := by
  have plain : Plain (Text.join ' ' names) :=
    plain_join fun name member character inside =>
      (isSolid_of_isNameCharacter (characters name member character inside)).2
  have written : ∀ name ∈ names, name ≠ [] := by
    rintro name member rfl
    exact absurd (named [] member) (by decide)
  have words : Text.words (Text.join ' ' names) = names :=
    Text.words_join (by decide) written fun name member character inside =>
      (isSolid_of_isNameCharacter (characters name member character inside)).1
  rw [classNames_of_plain plain, words, List.filter_eq_self.2 named,
    OrderedSet.members_ofList_of_nodup distinct]

/-- The class names of a text are the runs of characters that stand in it as class names, each
once, in the order in which they stand there first.  Put together with spaces they are found
again.  Each of them can be read in every environment, and comes to a template whose arguments
cannot be counted exactly when one of its parts does. -/
theorem classNames_exact (text : Text) :
    (classNames text).Nodup ∧
    (∀ name, name ∈ classNames text ↔ ∃ before, Found true text before name) ∧
    (classNames text).Pairwise (Precedes true text) ∧
    classNames (Text.join ' ' (classNames text)) = classNames text ∧
    ∀ name ∈ classNames text, ∀ (environment : Environment) (ceiling : Nat),
      ∃ parts outcome,
        ClassName.partsOf name = .ok parts ∧
        ClassName.read environment ceiling name = .ok outcome ∧
        (.outOfRange name ∈ outcome.notices ↔
          ∃ part ∈ parts, part ≠ Grammar.unimportant ∧
            ClassName.overreaches environment.lexicon ceiling part = true) := by
  have members (name : Text) :
      name ∈ classNames text ↔ ∃ before, Found true text before name := by
    rw [classNames, OrderedSet.mem_ofList, mem_namesFrom_iff]
  have distinct : (classNames text).Nodup := (OrderedSet.ofList _).distinct
  have named : ∀ name ∈ classNames text, isName name = true := by
    intro name member
    obtain ⟨_, found⟩ := (members name).1 member
    exact found.named
  refine ⟨distinct, members, pairwise_precedes true text, ?_, ?_⟩
  · refine classNames_join distinct named fun name member => ?_
    obtain ⟨_, found⟩ := (members name).1 member
    exact found.characters
  · intro name member environment ceiling
    obtain ⟨body, written, rfl⟩ := isName_iff.1 (named name member)
    have cut := ClassName.partsOf_scheme_append written
    obtain ⟨outcome, done, reports⟩ := ClassName.exists_read environment cut ceiling
    exact ⟨_, outcome, cut, done, reports⟩

/-- Two class names in markup, one of them twice. -/
theorem classNames_exact_markup :
    let text := "<p class=\"cssf--c_red cssf--m_0\"><b class='cssf--c_red'>".toList
    classNames text = ["cssf--c_red".toList, "cssf--m_0".toList] ∧
      ∃ parts outcome,
        ClassName.partsOf "cssf--c_red".toList = .ok parts ∧
        ClassName.read ClassName.palette 15 "cssf--c_red".toList = .ok outcome ∧
        (.outOfRange "cssf--c_red".toList ∈ outcome.notices ↔
          ∃ part ∈ parts, part ≠ Grammar.unimportant ∧
            ClassName.overreaches ClassName.palette.lexicon 15 part = true) := by
  intro text
  have found : classNames text = ["cssf--c_red".toList, "cssf--m_0".toList] := by decide
  have member : "cssf--c_red".toList ∈ classNames text := by
    rw [found]
    exact List.mem_cons_self
  exact ⟨found, (classNames_exact text).2.2.2.2 _ member ClassName.palette 15⟩

/-- A class name that is found comes to a template whose arguments cannot be counted. -/
theorem classNames_tower :
    classNames "cssf--c_tpl-big".toList = ["cssf--c_tpl-big".toList] ∧
      ∃ outcome,
        ClassName.read ClassName.tower 15 "cssf--c_tpl-big".toList = .ok outcome ∧
        .outOfRange "cssf--c_tpl-big".toList ∈ outcome.notices := by
  have cut : ClassName.partsOf "cssf--c_tpl-big".toList = .ok ["c_tpl-big".toList] := by rfl
  have single : ClassName.inlined? ClassName.tower.lexicon "c_tpl-big".toList = none := by rfl
  have chunk : ClassName.tower.lexicon.nextChunk? ⟨1, ["tpl-big".toList]⟩ =
      some (⟨.outOfRange, "tpl-big".toList⟩, ⟨2, []⟩) := by rfl
  have values : ClassName.valuesOf ClassName.tower.lexicon "c_tpl-big".toList = [.outOfRange] :=
    ClassName.valuesOf_of_single chunk rfl (by rfl)
  obtain ⟨outcome, done, reports⟩ := ClassName.exists_read ClassName.tower cut 15
  refine ⟨by decide, outcome, done, reports.2 ⟨_, List.mem_singleton_self _, by decide, ?_⟩⟩
  rw [ClassName.overreaches_of_single single, values]
  rfl

end AtomicCss.Scan
