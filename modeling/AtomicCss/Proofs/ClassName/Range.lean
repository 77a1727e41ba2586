import AtomicCss.Proofs.ClassName.Accounts
import AtomicCss.Proofs.Value.Room

/-!
Contract: class names that come to a template whose arguments cannot be counted.

Owns:
- the parts that come to such a template, which the lexicon and the levels left decide;
- the class names that report one;
- parts that are short enough for every template of a lexicon.

Does not own: which sums of places and counts are words.
-/

namespace AtomicCss

open Expansion

/-! ## Parts -/

namespace ClassName

/-- Reading the part comes to a template whose arguments cannot be counted, when expansions can
nest `levels` deeper. -/
def overreaches (lexicon : Lexicon) (levels : Nat) (part : Text) : Bool :=
  match inlined? lexicon part with
  | none => Value.anyOverreaches (valuesOf lexicon part) levels
  | some parts =>
      match levels with
      | 0 => false
      | deeper + 1 => parts.any (overreaches lexicon deeper)

/-- A part that does not stand for others comes to what its values come to. -/
theorem overreaches_of_single
    {lexicon : Lexicon}
    {part : Text}
    (single : inlined? lexicon part = none)
    (levels : Nat) :
    overreaches lexicon levels part = Value.anyOverreaches (valuesOf lexicon part) levels := by
  unfold overreaches
  rw [single]

section Calls

variable (environment : Environment)

theorem outOfRange_mem_callsAlong
    {levels : Nat}
    (step :
      ∀ (part : Text) (state : Expansion),
        state.levelsLeft = levels →
          (Call.outOfRange ∈ partCalls environment levels part state ↔
            overreaches environment.lexicon levels part = true))
    (parts : List Text)
    {state : Expansion}
    (left : state.levelsLeft = levels) :
    Call.outOfRange ∈ callsAlong (partCalls environment levels) parts state ↔
      parts.any (overreaches environment.lexicon levels) = true := by
  induction parts generalizing state with
  | nil => simp [callsAlong]
  | cons part others inductionHypothesis =>
      -- Which contribution the part adds to makes no difference to the state.
      let contribution := Contribution.start [] true
      have run := run_partCalls environment levels part contribution state left
      have after : (state.run (partCalls environment levels part state)).levelsLeft = levels := by
        rw [run, (balanced_partEffect environment part contribution state).levelsLeft]
        exact left
      rw [callsAlong, List.mem_append, step part state left, inductionHypothesis after,
        List.any_cons, Bool.or_eq_true]

theorem outOfRange_mem_partCalls
    (levels : Nat)
    (part : Text)
    (state : Expansion)
    (left : state.levelsLeft = levels) :
    Call.outOfRange ∈ partCalls environment levels part state ↔
      overreaches environment.lexicon levels part = true := by
  induction levels generalizing part state with
  | zero =>
      unfold partCalls overreaches
      cases inlined? environment.lexicon part with
      | none =>
          rw [← left]
          exact Value.outOfRange_mem_callsAll environment.ambient _ state
      | some parts => simp
  | succ deeper inductionHypothesis =>
      unfold partCalls overreaches
      cases inlined? environment.lexicon part with
      | none =>
          rw [← left]
          exact Value.outOfRange_mem_callsAll environment.ambient _ state
      | some parts =>
          have inside : state.deepen.levelsLeft = deeper := by
            rw [levelsLeft_deepen, left, Nat.add_sub_cancel]
          dsimp only
          rw [outOfRange_mem_nestedCalls, left,
            outOfRange_mem_callsAlong environment inductionHypothesis parts inside]
          exact and_iff_right (Nat.succ_pos deeper)

/-- A text is out of range when one of its values comes to such a template. -/
theorem outOfRange_mem_resolveText (text : Text) (state : Expansion) :
    .outOfRange state.origin ∈ (environment.resolveText text state).2.notices ↔
      .outOfRange state.origin ∈ state.notices ∨
        Value.anyOverreaches (environment.lexicon.readSequence text) state.levelsLeft = true := by
  have run := Value.run_callsAll environment.ambient (environment.lexicon.readSequence text) state
  have same : (environment.resolveText text state).2 =
      state.run (Value.callsAll environment.ambient (environment.lexicon.readSequence text)
        state) := run.symm
  rw [same, outOfRange_mem_run, Value.outOfRange_mem_callsAll]

/-- A class name is out of range when one of its parts comes to such a template. -/
theorem outOfRange_mem_progressOf
    (ceiling : Nat)
    (className : Text)
    (parts : List Text) :
    .outOfRange className ∈ (progressOf environment ceiling className parts).state.notices ↔
      ∃ part ∈ parts, part ≠ Grammar.unimportant ∧
        overreaches environment.lexicon ceiling part = true := by
  let first := Expansion.start className ceiling
  let kept := parts.filter fun part => part ≠ Grammar.unimportant
  have run : first.run (callsAlong (partCalls environment ceiling) kept first) =
      (progressOf environment ceiling className parts).state :=
    run_partsCalls environment kept _ first
  have left : first.levelsLeft = ceiling := rfl
  have reached := outOfRange_mem_callsAlong environment
    (outOfRange_mem_partCalls environment ceiling) kept left
  have given := outOfRange_mem_run first (callsAlong (partCalls environment ceiling) kept first)
  rw [run, reached] at given
  show Notice.outOfRange first.origin ∈ _ ↔ _
  rw [given]
  simp only [first, kept, Expansion.start, List.not_mem_nil, false_or, List.any_eq_true,
    List.mem_filter, decide_eq_true_eq, and_assoc]

/-- A class name that can be cut into parts can be read, whatever its parts come to. -/
theorem exists_read
    {className : Text}
    {parts : List Text}
    (cut : partsOf className = .ok parts)
    (ceiling : Nat) :
    ∃ outcome, read environment ceiling className = .ok outcome ∧
      (.outOfRange className ∈ outcome.notices ↔
        ∃ part ∈ parts, part ≠ Grammar.unimportant ∧
          overreaches environment.lexicon ceiling part = true) :=
  ⟨_, read_of_partsOf cut environment ceiling,
    outOfRange_mem_progressOf environment ceiling className parts⟩

end Calls

end ClassName

/-! ## Short parts -/

section Room

variable {lexicon : Lexicon} {size : Nat} (roomy : lexicon.Roomy size)

include roomy

theorem Keyframes.anyOverreaches_valuesFrom
    {cursor : Cursor}
    (fits : cursor.Fits size)
    (current : Option Text)
    (levels : Nat) :
    Value.anyOverreaches (valuesFrom lexicon current.isSome cursor) levels = false := by
  induction cursor, current using frames_induction lexicon with
  | nil position current =>
      rw [valuesFrom]
      rfl
  | selector position token rest current chosen kind inductionHypothesis =>
      rw [valuesFrom_selector _ kind]
      exact inductionHypothesis fits.next
  | skip position token rest kind inductionHypothesis =>
      rw [Option.isSome_none, valuesFrom_skip kind]
      exact inductionHypothesis fits.next
  | property position token rest chosen kind inductionHypothesis =>
      rw [Option.isSome_some, valuesFrom_property kind]
      cases read : lexicon.consume? ⟨position + 1, rest⟩ with
      | none => rfl
      | some consumed =>
          obtain ⟨short, others⟩ := roomy.consume? fits.next read
          rw [Value.anyOverreaches, roomy.readChunk short, Bool.false_or]
          exact inductionHypothesis consumed.1 consumed.2 read others

theorem FontFace.anyOverreaches_valuesFrom
    {cursor : Cursor}
    (fits : cursor.Fits size)
    (levels : Nat) :
    Value.anyOverreaches (valuesFrom lexicon cursor) levels = false := by
  induction cursor using descriptors_induction lexicon with
  | nil position =>
      rw [valuesFrom]
      rfl
  | property position token rest inductionHypothesis =>
      rw [valuesFrom_cons]
      cases read : lexicon.consume? ⟨position + 1, rest⟩ with
      | none => rfl
      | some consumed =>
          obtain ⟨short, others⟩ := roomy.consume? fits.next read
          rw [Value.anyOverreaches, roomy.readChunk short, Bool.false_or]
          exact inductionHypothesis consumed.1 consumed.2 read others

end Room

theorem Lexicon.length_shorthand?
    {lexicon : Lexicon}
    {part number : Text}
    {properties : List Text}
    (shorthand : lexicon.shorthand? part = some (properties, number)) :
    number.length ≤ part.length := by
  have bound {α : Type} {table : List (Text × α)} {found : NumericMatch α}
      (chosen : longestNumeric? table part = some found) :
      found.rest.length ≤ part.length := by
    unfold longestNumeric? at chosen
    split at chosen
    · cases chosen
    · obtain ⟨entry, _, same⟩ := List.mem_filterMap.1 (mem_of_longest? chosen)
      obtain ⟨rest, numeric, rfl⟩ := Option.map_eq_some_iff.1 same
      have cut := (Option.filter_eq_some_iff.1 numeric).1
      rw [Text.length_of_after? cut]
      exact Nat.le_add_left _ _
  rw [shorthand?, Option.or_eq_some_iff] at shorthand
  rcases shorthand with abbreviated | ⟨_, full⟩
  · obtain ⟨found, chosen, same⟩ := Option.map_eq_some_iff.1 abbreviated
    cases same
    exact bound chosen
  · obtain ⟨found, chosen, same⟩ := Option.map_eq_some_iff.1 full
    obtain ⟨candidate, longest, rfl⟩ := Option.map_eq_some_iff.1 chosen
    cases same
    exact bound longest

namespace ClassName

/-- A template part that asks for a value resolves its arguments as they are written. -/
theorem arguments_of_formOf
    {lexicon : Lexicon}
    {part : Text}
    {template : Template}
    {arguments : List Text}
    (form : formOf lexicon part = .template (.value template arguments)) :
    arguments = rawArguments part := by
  have use : templateUse lexicon part = .value template arguments := by
    unfold formOf at form
    split at form
    · cases form
    · split at form
      · cases form
      · split at form
        · exact Form.template.inj form
        · cases form
  simp only [templateUse] at use
  split at use
  · cases use
  · split at use
    · cases use
    · split at use
      · cases use
      · cases use
        rfl

section Room

variable {lexicon : Lexicon} {size : Nat} (roomy : lexicon.Roomy size)

include roomy

theorem anyOverreaches_simpleValues
    (kind : PartKind)
    {part : Text}
    (short : part.length < size)
    (levels : Nat) :
    Value.anyOverreaches (simpleValues lexicon kind part) levels = false := by
  have fits : Cursor.Fits size (Cursor.ofText Grammar.valueSeparator part) :=
    Cursor.Fits.ofText short
  have beyond : (Text.beyond Grammar.valueSeparator part).length < size :=
    Nat.lt_of_le_of_lt (Text.length_beyond_le part) short
  unfold simpleValues
  cases kind with
  | mediaQuery | containerQuery | target | template => rfl
  | keyframes =>
      simp only [Keyframes.valuesOf]
      split
      · rfl
      · exact Keyframes.anyOverreaches_valuesFrom roomy (fits.take 1) none levels
  | fontFace =>
      simp only [FontFace.valuesOf]
      split
      · rfl
      · exact FontFace.anyOverreaches_valuesFrom roomy (fits.take 1) levels
  | customProperty | rootValue => exact roomy.readStream (Cursor.Fits.ofText beyond) levels
  | declaration =>
      dsimp only
      split
      · rename_i shorthand found
        have bound := Nat.lt_of_le_of_lt (Lexicon.length_shorthand? found) short
        rw [Value.anyOverreaches, roomy.read false shorthand.2 bound]
        rfl
      · unfold Cursor.next?
        split
        · rfl
        · rename_i token rest found
          have same : Cursor.ofText Grammar.valueSeparator part =
              ⟨0, token :: rest⟩ := by rw [← found]; rfl
          rw [same] at fits
          rw [same]
          exact roomy.readStream fits.next levels

theorem anyOverreaches_valuesOf
    {part : Text}
    (short : part.length < size)
    (levels : Nat) :
    Value.anyOverreaches (valuesOf lexicon part) levels = false := by
  unfold valuesOf
  split
  · exact anyOverreaches_simpleValues roomy _ short levels
  · rename_i template arguments form
    refine Lexicon.anyOverreaches_of_forall
      (List.forall_mem_map.2 fun argument member => ?_) levels
    have bound : argument.length ≤ part.length := by
      rw [arguments_of_formOf form, rawArguments] at member
      split at member
      · cases member
      · exact Nat.le_trans (Text.length_le_of_mem_split member) (Text.length_beyond_le part)
    exact roomy.read false argument (Nat.lt_of_le_of_lt bound short)
  · rfl
  · rfl
  · rfl

end Room

/-- By induction on the levels left: a template that is a class of its own comes to what its
parts come to. -/
theorem overreaches_of_roomy
    {lexicon : Lexicon}
    {levels : Nat}
    {part : Text}
    (roomy : ∀ single ∈ inlinedParts lexicon levels part, lexicon.Roomy (single.length + 1)) :
    overreaches lexicon levels part = false := by
  induction levels generalizing part with
  | zero =>
      unfold inlinedParts at roomy
      unfold overreaches
      cases single : inlined? lexicon part with
      | none =>
          rw [single] at roomy
          exact anyOverreaches_valuesOf (roomy part (List.mem_singleton_self part))
            (Nat.lt_succ_self _) 0
      | some parts => rfl
  | succ deeper inductionHypothesis =>
      unfold inlinedParts at roomy
      unfold overreaches
      cases single : inlined? lexicon part with
      | none =>
          rw [single] at roomy
          exact anyOverreaches_valuesOf (roomy part (List.mem_singleton_self part))
            (Nat.lt_succ_self _) (deeper + 1)
      | some parts =>
          rw [single] at roomy
          rw [List.any_eq_false]
          intro nested member
          rw [Bool.not_eq_true]
          apply inductionHypothesis
          intro inner inside
          exact roomy inner (List.mem_flatMap.2 ⟨nested, member, inside⟩)

/-! ## Class names -/

/-- One more than the greatest index of a blueprint is a word unless that index is the greatest
word, and the tokens that a cursor takes end before it exactly when their count does not fit.  A
text and a class name are out of range exactly when they come to a template with such a count,
which no class name does whose parts are short enough for every template. -/
theorem outOfRange_iff (environment : Environment) :
    (∀ template : Template,
      (∀ greatest ∈ (Template.indices template.blueprint).max?, greatest + 1 < wordLimit) ↔
        wordLimit - 1 ∉ Template.indices template.blueprint) ∧
    (∀ (cursor : Cursor) (count : Nat),
      cursor.size < wordLimit → count < wordLimit →
        (cursor.Addressable count ↔
          cursor.position ≤ min ((cursor.position + count) % wordLimit) cursor.size)) ∧
    (∀ (text : Text) (state : Expansion),
      .outOfRange state.origin ∈ (environment.resolveText text state).2.notices ↔
        .outOfRange state.origin ∈ state.notices ∨
          Value.anyOverreaches (environment.lexicon.readSequence text) state.levelsLeft = true) ∧
    (∀ (ceiling : Nat) (className : Text) (parts : List Text),
      partsOf className = .ok parts →
        ∃ outcome, read environment ceiling className = .ok outcome ∧
          (.outOfRange className ∈ outcome.notices ↔
            ∃ part ∈ parts, part ≠ Grammar.unimportant ∧
              overreaches environment.lexicon ceiling part = true) ∧
          ((∀ single ∈ inlinedPartsOf environment.lexicon ceiling className,
              environment.lexicon.Roomy (single.length + 1)) →
            .outOfRange className ∉ outcome.notices)) := by
  refine ⟨Template.succ_greatest_lt_iff, ?_, outOfRange_mem_resolveText environment, ?_⟩
  · intro cursor count sizeWord countWord
    exact Cursor.addressable_iff sizeWord countWord
  · intro ceiling className parts cut
    have reached := outOfRange_mem_progressOf environment ceiling className parts
    refine ⟨_, by rw [read, cut]; rfl, reached, ?_⟩
    intro roomy given
    obtain ⟨part, member, ordinary, reaches⟩ := reached.1 given
    rw [overreaches_of_roomy] at reaches
    · cases reaches
    · intro single inside
      apply roomy
      rw [inlinedPartsOf, cut]
      refine List.mem_flatMap.2 ⟨part, ?_, inside⟩
      exact List.mem_filter.2 ⟨member, by simpa using ordinary⟩

/-- With small templates nothing is out of range. -/
theorem outOfRange_palette :
    ∃ outcome, read palette 10 "cssf--tpl-red".toList = .ok outcome ∧
      .outOfRange "cssf--tpl-red".toList ∉ outcome.notices := by
  have cut : partsOf "cssf--tpl-red".toList = .ok ["tpl-red".toList] := by rfl
  have single : inlinedPartsOf palette.lexicon 10 "cssf--tpl-red".toList =
      ["tpl-red".toList] := by rfl
  obtain ⟨_, _, _, classes⟩ := outOfRange_iff palette
  obtain ⟨outcome, done, _, small⟩ := classes 10 _ _ cut
  refine ⟨outcome, done, small ?_⟩
  rw [single]
  intro part member
  rw [List.mem_singleton] at member
  subst member
  exact ⟨by decide, by decide⟩

/-- An environment with a template whose number of arguments is the greatest word. -/
def tower : Environment :=
  ⟨Lexicon.empty.addTemplate "big".toList "§18446744073709551614".toList, ⟨0, none, []⟩⟩

/-- After the second of two tokens the sum of the place and that number is no word. -/
theorem outOfRange_tower :
    (∃ outcome, read tower 15 "cssf--c_tpl-big".toList = .ok outcome ∧
      .outOfRange "cssf--c_tpl-big".toList ∈ outcome.notices) ∧
    wordLimit ≤ 2 + tower.lexicon.span "tpl-big".toList ⟨2, []⟩ := by
  have cut : partsOf "cssf--c_tpl-big".toList = .ok ["c_tpl-big".toList] := by rfl
  have single : inlined? tower.lexicon "c_tpl-big".toList = none := by rfl
  have value : tower.lexicon.chunks ⟨1, ["tpl-big".toList]⟩ = [⟨.outOfRange, "tpl-big".toList⟩] :=
    Lexicon.chunks_of_single (by rfl) rfl
  have values : valuesOf tower.lexicon "c_tpl-big".toList =
      (tower.lexicon.chunks ⟨1, ["tpl-big".toList]⟩).map tower.lexicon.readChunk := by rfl
  have reaches : overreaches tower.lexicon 15 "c_tpl-big".toList = true := by
    unfold overreaches
    rw [single, values, value]
    rfl
  refine ⟨⟨_, by rw [read, cut]; rfl, ?_⟩, by decide⟩
  rw [outOfRange_mem_progressOf]
  exact ⟨_, List.mem_singleton_self _, by decide, reaches⟩

end ClassName

end AtomicCss
