import AtomicCss.Proofs.ClassName.Changes
import AtomicCss.Proofs.ClassName.Range
import AtomicCss.Proofs.ClassName.Joining
import AtomicCss.Proofs.ClassName.RootOrder

/-!
Contract: templates that call each other in a cycle, down to the ceiling.

Owns:
- parts that ask for no further level, and what they do on whatever level;
- cycles of templates, each of which ends with a call of the next one;
- the parts that a cycle comes to above the ceiling, and the main statement about them.

Does not own: templates that stand for their parts below the ceiling.

## Why the ceiling can be told apart

Each template of a cycle ends with the call of the next one, so no part of its own is read after
that call.  What happens at the ceiling happens last: the refusal is the end of the reading, and
all that is left to do is to come back.  Before it only parts are read that do not feel the level
that they are on.
-/

namespace AtomicCss.ClassName

open Expansion

variable (environment : Environment)

/-! ## Parts that ask for no further level -/

/-- Adding the part asks for no further level.  In which state it is added makes no
difference. -/
def Flat (part : Text) : Prop :=
  ∃ state : Expansion, Call.enter ∉ partCalls environment state.levelsLeft part state

theorem single_of_classify
    (lexicon : Lexicon)
    {part : Text}
    (kind : PartKind.classify part ≠ .template) :
    inlined? lexicon part = none := by
  by_cases blank : part = []
  · subst blank
    rfl
  · by_cases unimportant : part = Grammar.unimportant
    · subst unimportant
      rfl
    · obtain ⟨field, own⟩ := Option.ne_none_iff_exists'.1 (fieldOf?_ne_none kind)
      rw [fieldOf?, if_neg unimportant] at own
      rw [inlined?, formOf_of_field lexicon blank unimportant own]

section Flat

variable {environment} {parts : List Text}

theorem enter_mem_partCalls_iff
    {part : Text}
    (single : inlined? environment.lexicon part = none)
    (levels : Nat)
    (state : Expansion) :
    Call.enter ∈ partCalls environment levels part state ↔
      Value.anyNests (valuesOf environment.lexicon part) = true := by
  unfold partCalls
  rw [single]
  exact Value.enter_mem_callsAll environment.ambient _ state

theorem Flat.enter_not_mem
    {part : Text}
    (flat : Flat environment part)
    (single : inlined? environment.lexicon part = none)
    (levels : Nat)
    (state : Expansion) :
    Call.enter ∉ partCalls environment levels part state := by
  obtain ⟨other, absent⟩ := flat
  rw [enter_mem_partCalls_iff single] at absent ⊢
  exact absent

variable
  (single : ∀ part ∈ parts, inlined? environment.lexicon part = none)
  (flat : ∀ part ∈ parts, Flat environment part)

include single flat

theorem enter_not_mem_callsAlong (levels : Nat) (state : Expansion) :
    Call.enter ∉ callsAlong (partCalls environment levels) parts state := by
  induction parts generalizing state with
  | nil => exact List.not_mem_nil
  | cons part others inductionHypothesis =>
      rw [List.forall_mem_cons] at single flat
      rw [callsAlong, List.mem_append, not_or]
      exact ⟨flat.1.enter_not_mem single.1 levels state,
        inductionHypothesis single.2 flat.2 _⟩

/-- Such parts come to the same in all states of a class name, on whatever level. -/
theorem partsEffect_of_flat (contribution : Contribution) (origin : Text) :
    ∃ result rootValues notices, ∀ state : Expansion, state.origin = origin →
      partsEffect environment parts contribution state =
        (result, state.extend rootValues notices) := by
  -- They are not refused a level where none is left.
  let lowest := Expansion.start origin 0
  have fits : ¬ Refuses (partsEffect environment parts contribution) lowest := by
    have run := run_partsCalls environment parts contribution lowest.cleared
    have absent := enter_not_mem_callsAlong single flat lowest.cleared.levelsLeft lowest.cleared
    have kept := limitHit_run absent lowest.cleared
    rw [run] at kept
    rw [Refuses, kept]
    exact Bool.false_ne_true
  obtain ⟨result, rootValues, notices, same⟩ :=
    free_partsEffect environment parts contribution lowest fits
  exact ⟨result, rootValues, notices, fun state origin => same state origin (Nat.zero_le _)⟩

end Flat

/-- Parts that do not stand for others make changes, whatever contribution they are added to. -/
theorem partsEffect_changes
    {parts : List Text}
    (single : ∀ part ∈ parts, inlined? environment.lexicon part = none)
    (state : Expansion) :
    ∃ (changes : List Contribution.Change) (after : Expansion), ∀ contribution,
      partsEffect environment parts contribution state =
        (changes.foldl Contribution.apply contribution, after) := by
  induction parts generalizing state with
  | nil => exact ⟨[], state, fun _ => rfl⟩
  | cons part others inductionHypothesis =>
      rw [List.forall_mem_cons] at single
      obtain ⟨change, middle, makes⟩ := exists_makes environment single.1 state
      obtain ⟨changes, after, rest⟩ := inductionHypothesis single.2 middle
      refine ⟨change :: changes, after, fun contribution => ?_⟩
      rw [List.foldl_cons, ← rest]
      show partsEffect environment others
        (applyPart environment state.levelsLeft part ⟨contribution, state⟩).contribution
        (applyPart environment state.levelsLeft part ⟨contribution, state⟩).state = _
      rw [makes]

theorem declarations_foldl_apply
    (changes : List Contribution.Change)
    (contribution : Contribution) :
    (changes.foldl Contribution.apply contribution).declarations =
      contribution.declarations ++ changes.flatMap Contribution.Change.declared := by
  induction changes generalizing contribution with
  | nil => simp
  | cons change others inductionHypothesis =>
      rw [List.foldl_cons, inductionHypothesis, contribution.declarations_apply,
        List.flatMap_cons, List.append_assoc]

/-- What such parts declare comes after what was declared before.  It does not depend on the
contribution, and all states of the class name give the same. -/
theorem declarations_partsEffect
    {parts : List Text}
    (single : ∀ part ∈ parts, inlined? environment.lexicon part = none)
    (flat : ∀ part ∈ parts, Flat environment part)
    {blank : Contribution}
    (undeclared : blank.declarations = [])
    (contribution : Contribution)
    {state other : Expansion}
    (origin : state.origin = other.origin) :
    (partsEffect environment parts contribution state).1.declarations =
      contribution.declarations ++ (partsEffect environment parts blank other).1.declarations := by
  obtain ⟨changes, after, makes⟩ := partsEffect_changes environment single state
  obtain ⟨result, rootValues, notices, same⟩ :=
    partsEffect_of_flat single flat blank other.origin
  have alone : (partsEffect environment parts blank other).1 =
      changes.foldl Contribution.apply blank := by
    have here := same state origin
    rw [makes, Prod.mk.injEq] at here
    rw [same other rfl, here.1]
  rw [makes, alone, declarations_foldl_apply, declarations_foldl_apply, undeclared,
    List.nil_append]

theorem declarations_partsEffect_flatten
    {groups : List (List Text)}
    (single : ∀ part ∈ groups.flatten, inlined? environment.lexicon part = none)
    (flat : ∀ part ∈ groups.flatten, Flat environment part)
    {blank : Contribution}
    (undeclared : blank.declarations = [])
    (contribution : Contribution)
    {state other : Expansion}
    (origin : state.origin = other.origin) :
    (partsEffect environment groups.flatten contribution state).1.declarations =
      contribution.declarations ++
        groups.flatMap fun parts => (partsEffect environment parts blank other).1.declarations := by
  induction groups generalizing contribution state with
  | nil => exact (List.append_nil _).symm
  | cons parts others inductionHypothesis =>
      rw [List.flatten_cons, List.forall_mem_append] at single flat
      have kept := (balanced_partsEffect environment parts contribution state).origin
      rw [List.flatten_cons, partsEffect_append,
        inductionHypothesis single.2 flat.2 _ (kept.trans origin),
        declarations_partsEffect environment single.1 flat.1 undeclared contribution origin,
        List.flatMap_cons, List.append_assoc]

/-! ## Cycles -/

/-- The part that calls a template, by its name and what follows the name. -/
def callOf (name : Text) : Text :=
  Grammar.template ++ name

/-- Templates in a cycle.  Each stands for parts of its own and then for a call of the next one,
the last for a call of the first.  Its own parts are no templates, leave the importance as it is
and ask for no further level. -/
structure Cycle (environment : Environment) (period : Nat) (names : Nat → Text)
    (own : Nat → List Text) : Prop where
  positive : 0 < period
  use :
    ∀ index < period,
      templateUse environment.lexicon (callOf (names index)) =
        .parts (own index ++ [callOf (names ((index + 1) % period))])
  plain :
    ∀ index < period, ∀ part ∈ own index,
      PartKind.classify part ≠ .template ∧ part ≠ Grammar.unimportant
  flat : ∀ index < period, ∀ part ∈ own index, Flat environment part

/-- The parts that a cycle comes to on a number of levels, beginning with one of its
templates. -/
def unrolled (period : Nat) (own : Nat → List Text) (index levels : Nat) : List Text :=
  (List.range levels).flatMap fun turn => own ((index + turn) % period)

theorem unrolled_zero (period : Nat) (own : Nat → List Text) (levels : Nat) :
    unrolled period own 0 levels =
      ((List.range levels).map fun turn => own (turn % period)).flatten := by
  simp only [unrolled, Nat.zero_add, List.flatMap_def]

theorem unrolled_succ (period : Nat) (own : Nat → List Text) (index levels : Nat) :
    unrolled period own index (levels + 1) =
      own (index % period) ++ unrolled period own ((index + 1) % period) levels := by
  rw [unrolled, List.range_succ_eq_map, List.flatMap_cons, List.flatMap_map, unrolled]
  congr 2
  funext turn
  rw [Nat.mod_add_mod, Nat.succ_eq_add_one, Nat.add_assoc, Nat.add_comm 1 turn]

theorem formOf_callOf (lexicon : Lexicon) (name : Text) :
    formOf lexicon (callOf name) = .template (templateUse lexicon (callOf name)) := by
  have marked : Text.startsWith Grammar.template (callOf name) = true := by
    rw [Text.startsWith, callOf, Text.after?_append]
    rfl
  have written : callOf name ≠ [] := List.cons_ne_nil _ _
  have ordinary : callOf name ≠ Grammar.unimportant := by
    intro same
    rw [same] at marked
    cases marked
  rw [formOf, if_neg written, if_neg ordinary, classify_template marked]

/-- Coming back from a refusal one level deeper is a refusal on the level itself. -/
theorem leave_refuse_deepen (state : Expansion) (rootValues : List RootValue)
    (notices : List Notice) :
    (state.deepen.extend rootValues notices).refuse.leave =
      (state.extend rootValues notices).refuse := by
  unfold Expansion.refuse
  cases hit : state.limitHit <;>
    simp [deepen, extend, leave, report, hit]

namespace Cycle

variable
  {environment : Environment}
  {period : Nat}
  {names : Nat → Text}
  {own : Nat → List Text}
  (cycle : Cycle environment period names own)

include cycle

theorem form {index : Nat} (bound : index < period) :
    formOf environment.lexicon (callOf (names index)) =
      .template (.parts (own index ++ [callOf (names ((index + 1) % period))])) := by
  rw [formOf_callOf, cycle.use index bound]

theorem mod_lt (index : Nat) : index % period < period :=
  Nat.mod_lt index cycle.positive

theorem mem_unrolled {index levels : Nat} {part : Text}
    (member : part ∈ unrolled period own index levels) :
    ∃ turn < period, part ∈ own turn := by
  obtain ⟨turn, _, inside⟩ := List.mem_flatMap.1 member
  exact ⟨(index + turn) % period, cycle.mod_lt _, inside⟩

theorem single_own {index : Nat} (bound : index < period) :
    ∀ part ∈ own index, inlined? environment.lexicon part = none :=
  fun part member => single_of_classify _ (cycle.plain index bound part member).1

theorem single_unrolled (index levels : Nat) :
    ∀ part ∈ unrolled period own index levels, inlined? environment.lexicon part = none := by
  intro part member
  obtain ⟨turn, bound, inside⟩ := cycle.mem_unrolled member
  exact cycle.single_own bound part inside

theorem flat_unrolled (index levels : Nat) :
    ∀ part ∈ unrolled period own index levels, Flat environment part := by
  intro part member
  obtain ⟨turn, bound, inside⟩ := cycle.mem_unrolled member
  exact cycle.flat turn bound part inside

/-- By induction on the levels left: on each of them the next template of the cycle adds its own
parts, and where none is left the call is refused. -/
theorem partEffect_call
    {levels index : Nat}
    (bound : index < period)
    (contribution : Contribution)
    {state : Expansion}
    (left : state.levelsLeft = levels) :
    partEffect environment (callOf (names index)) contribution state =
      let reached :=
        partsEffect environment (unrolled period own index levels) contribution state
      (reached.1, reached.2.refuse) := by
  induction levels generalizing index contribution state with
  | zero =>
      have full : ¬ state.depth < state.ceiling := by
        rw [depth_lt_ceiling_iff, left]
        exact Nat.lt_irrefl 0
      rw [partEffect_parts environment (cycle.form bound)]
      unfold Expansion.nested enter
      simp only [if_neg full]
      rfl
  | succ levels inductionHypothesis =>
      have room : state.depth < state.ceiling := by
        rw [depth_lt_ceiling_iff, left]
        exact Nat.succ_pos levels
      let next := (index + 1) % period
      let middle := partsEffect environment (own index) contribution state.deepen
      have parts : unrolled period own index (levels + 1) =
          own index ++ unrolled period own next levels := by
        rw [unrolled_succ, Nat.mod_eq_of_lt bound]
      have deeper : middle.2.levelsLeft = levels := by
        rw [(balanced_partsEffect environment (own index) contribution state.deepen).levelsLeft,
          levelsLeft_deepen, left, Nat.add_sub_cancel]
      have inside : partsEffect environment (own index ++ [callOf (names next)]) contribution
            state.deepen =
          let reached :=
            partsEffect environment (unrolled period own index (levels + 1)) contribution
              state.deepen
          (reached.1, reached.2.refuse) := by
        rw [parts, partsEffect_append, partsEffect_append]
        exact inductionHypothesis (cycle.mod_lt _) middle.1 deeper
      -- The parts of the cycle do the same on both levels.
      obtain ⟨result, rootValues, notices, same⟩ := partsEffect_of_flat
        (cycle.single_unrolled index (levels + 1)) (cycle.flat_unrolled index (levels + 1))
        contribution state.origin
      rw [partEffect_parts environment (cycle.form bound)]
      unfold Expansion.nested enter
      simp only [if_pos room]
      rw [inside, same state.deepen rfl, same state rfl]
      exact congrArg (Prod.mk result) (leave_refuse_deepen state rootValues notices)

/-- The call of a template of the cycle is a part: it is the last one of another template. -/
theorem partsOf_call :
    partsOf (Grammar.scheme ++ callOf (names 0)) = .ok [callOf (names 0)] := by
  have last : period - 1 < period := Nat.sub_lt cycle.positive Nat.one_pos
  obtain ⟨body, same⟩ := templateUse_parts (cycle.use (period - 1) last)
  have next : (period - 1 + 1) % period = 0 := by
    rw [Nat.sub_add_cancel cycle.positive, Nat.mod_self]
  have member : callOf (names 0) ∈ Grammar.parts body := by
    rw [← same, next]
    exact List.mem_append_right _ (List.mem_singleton_self _)
  have written : callOf (names 0) ≠ [] := List.cons_ne_nil _ _
  rw [partsOf_scheme_append written,
    Grammar.parts_of_dashesApart (Grammar.dashesApart_of_mem_parts member)]

theorem unimportant_not_mem_unrolled (index levels : Nat) :
    Grammar.unimportant ∉ unrolled period own index levels := by
  intro member
  obtain ⟨turn, bound, inside⟩ := cycle.mem_unrolled member
  exact (cycle.plain turn bound _ inside).2 rfl

/-- A call of the first template comes to what the parts of the cycle come to, and is refused
after the last of them. -/
theorem progressOf_call (ceiling : Nat) (className : Text) :
    progressOf environment ceiling className [callOf (names 0)] =
      let reached := progressOf environment ceiling className (unrolled period own 0 ceiling)
      ⟨reached.contribution, reached.state.refuse⟩ := by
  have ordinary : Grammar.unimportant ∉ [callOf (names 0)] := by
    intro member
    have form := formOf_callOf environment.lexicon (names 0)
    rw [← List.mem_singleton.1 member] at form
    cases form
  let start := Expansion.start className ceiling
  have left : start.levelsLeft = ceiling := rfl
  have called := cycle.partEffect_call cycle.positive (Contribution.start className true) left
  rw [progressOf_of_not_mem ordinary,
    progressOf_of_not_mem (cycle.unimportant_not_mem_unrolled 0 ceiling)]
  exact congrArg (fun pair => Progress.mk pair.1 pair.2) called

theorem unimportant_not_mem_flatten (ceiling : Nat) :
    Grammar.unimportant ∉ ((List.range ceiling).map fun turn => own (turn % period)).flatten := by
  rw [← unrolled_zero]
  exact cycle.unimportant_not_mem_unrolled 0 ceiling

/-- What the parts of the cycle declare is what the parts of each turn declare alone, one turn
after the other. -/
theorem declarations_turns (ceiling : Nat) (className : Text) :
    let turns := (List.range ceiling).map fun turn => own (turn % period)
    (progressOf environment ceiling className turns.flatten).contribution.declarations =
      turns.flatMap fun parts =>
        (progressOf environment ceiling className parts).contribution.declarations := by
  intro turns
  have single := cycle.single_unrolled 0 ceiling
  have flat := cycle.flat_unrolled 0 ceiling
  rw [unrolled_zero] at single flat
  have ordinary : ∀ parts ∈ turns, Grammar.unimportant ∉ parts := fun parts member inside =>
    cycle.unimportant_not_mem_flatten ceiling (List.mem_flatten.2 ⟨parts, member, inside⟩)
  let first := Contribution.start className true
  let start := Expansion.start className ceiling
  have alone : ∀ parts ∈ turns,
      (progressOf environment ceiling className parts).contribution.declarations =
        (partsEffect environment parts first start).1.declarations := by
    intro parts member
    rw [progressOf_of_not_mem (ordinary parts member)]
    rfl
  have undeclared : first.declarations = [] := rfl
  have origin : start.origin = start.origin := rfl
  rw [progressOf_of_not_mem (cycle.unimportant_not_mem_flatten ceiling), List.flatMap_congr alone]
  exact declarations_partsEffect_flatten environment single flat undeclared first origin

theorem outOfRange_mem_turns (ceiling : Nat) (className : Text) :
    let turns := (List.range ceiling).map fun turn => own (turn % period)
    .outOfRange className ∈
        (progressOf environment ceiling className turns.flatten).state.notices ↔
      ∃ parts ∈ turns, ∃ part ∈ parts, overreaches environment.lexicon ceiling part = true := by
  intro turns
  rw [outOfRange_mem_progressOf]
  constructor
  · rintro ⟨part, member, _, reaches⟩
    obtain ⟨parts, turn, inside⟩ := List.mem_flatten.1 member
    exact ⟨parts, turn, part, inside, reaches⟩
  · rintro ⟨parts, turn, part, inside, reaches⟩
    have member : part ∈ turns.flatten := List.mem_flatten.2 ⟨parts, turn, inside⟩
    have ordinary : part ≠ Grammar.unimportant := by
      rintro rfl
      exact cycle.unimportant_not_mem_flatten ceiling member
    exact ⟨part, member, ordinary, reaches⟩

end Cycle

/-! ## What a refusal at the end keeps -/

theorem outOfRange_mem_refuse (state : Expansion) (className : Text) :
    .outOfRange className ∈ state.refuse.notices ↔ .outOfRange className ∈ state.notices := by
  unfold Expansion.refuse
  split <;> simp [report]

theorem withRootValues_refuse (progress : Progress) :
    withRootValues ⟨progress.contribution, progress.state.refuse⟩ = withRootValues progress := by
  have kept : progress.state.refuse.rootValues = progress.state.rootValues := by
    unfold Expansion.refuse
    split <;> rfl
  simp only [withRootValues, kept]

/-- A class name that calls a template of a cycle unrolls the cycle exactly to the ceiling: as
many of the templates as the ceiling allows add their own parts, one after the other, the call
after them is refused, and of this there is one warning.  A template whose arguments cannot be
counted is come to exactly where one of those parts does. -/
theorem read_cycle
    {environment : Environment}
    {period : Nat}
    {names : Nat → Text}
    {own : Nat → List Text}
    (cycle : Cycle environment period names own)
    (ceiling : Nat) :
    let className := Grammar.scheme ++ callOf (names 0)
    let turns := (List.range ceiling).map fun turn => own (turn % period)
    let contribution := withRootValues (progressOf environment ceiling className turns.flatten)
    contribution.declarations =
        turns.flatMap (fun parts =>
          (progressOf environment ceiling className parts).contribution.declarations) ∧
      ∃ outcome, read environment ceiling className = .ok outcome ∧
        outcome.contribution =
          (if contribution.hasOutput then some contribution else none) ∧
        outcome.notices.filter Notice.isCeilingReached = [.ceilingReached ceiling className] ∧
        (.outOfRange className ∈ outcome.notices ↔
          ∃ parts ∈ turns, ∃ part ∈ parts,
            overreaches environment.lexicon ceiling part = true) := by
  intro className turns contribution
  let reached := progressOf environment ceiling className turns.flatten
  have called : progressOf environment ceiling className [callOf (names 0)] =
      ⟨reached.contribution, reached.state.refuse⟩ := by
    have unrolled := cycle.progressOf_call ceiling className
    rwa [unrolled_zero] at unrolled
  have cut : partsOf className = .ok [callOf (names 0)] := cycle.partsOf_call
  have output : withRootValues ⟨reached.contribution, reached.state.refuse⟩ = contribution :=
    withRootValues_refuse reached
  have done := read_of_partsOf cut environment ceiling
  have warned := warnings_progressOf environment ceiling className [callOf (names 0)]
  simp only [called, output] at done
  simp only [called, limitHit_refuse, if_true] at warned
  have declared : contribution.declarations = reached.contribution.declarations := by
    simp only [contribution, withRootValues_eq]
    rfl
  refine ⟨declared.trans (cycle.declarations_turns ceiling className), _, done, rfl, warned, ?_⟩
  rw [outOfRange_mem_refuse]
  exact cycle.outOfRange_mem_turns ceiling className

/-! ## Cycles of few templates -/

/-- A part that does not stand for others asks for no further level when none of its values
does. -/
theorem flat_of_values
    {environment : Environment}
    {part : Text}
    {values : List Value}
    (single : inlined? environment.lexicon part = none)
    (read : valuesOf environment.lexicon part = values)
    (level : Value.anyNests values = false) :
    Flat environment part := by
  refine ⟨Expansion.start [] 0, ?_⟩
  rw [enter_mem_partCalls_iff single, read, level]
  exact Bool.false_ne_true

/-- An environment with two templates that call each other. -/
def relay : Environment :=
  let first := Lexicon.empty.addTemplate "day".toList "cssf--color_red--tpl-night".toList
  ⟨first.addTemplate "night".toList "cssf--tar-pc-hover--tpl-day".toList, ⟨0, none, []⟩⟩

namespace Relay

/-- The templates in turn. -/
def names (index : Nat) : Text :=
  if index = 0 then "day".toList else "night".toList

/-- The parts of their own in turn. -/
def own (index : Nat) : List Text :=
  if index = 0 then ["color_red".toList] else ["tar-pc-hover".toList]

theorem read_red : relay.lexicon.read false "red".toList = .text "red".toList :=
  Lexicon.read_of_unmarked (by decide) (by rfl)

theorem nextChunk?_red :
    relay.lexicon.nextChunk? ⟨1, ["red".toList]⟩ = some (⟨.value, "red".toList⟩, ⟨2, []⟩) := by
  rfl

theorem valuesOf_red : valuesOf relay.lexicon "color_red".toList = [.text "red".toList] := by
  rw [← read_red]
  exact valuesOf_of_single nextChunk?_red rfl (by rfl)

theorem cycle : Cycle relay 2 names own := by
  refine ⟨by decide, by decide, by decide, ?_⟩
  intro index bound part member
  interval_cases index
  · obtain rfl : part = "color_red".toList := List.mem_singleton.1 member
    exact flat_of_values (by rfl) valuesOf_red rfl
  · obtain rfl : part = "tar-pc-hover".toList := List.mem_singleton.1 member
    exact flat_of_values (by rfl) rfl rfl

theorem applyPart_red (levels : Nat) (progress : Progress) :
    applyPart relay levels "color_red".toList progress =
      progress.update fun contribution => contribution.declare ["color: red".toList] := by
  have form : formOf relay.lexicon "color_red".toList = .simple .declaration := by rfl
  have value : relay.resolveStream ⟨1, ["red".toList]⟩ progress.state =
      ("red".toList, progress.state) := by
    rw [Environment.resolveStream_of_single nextChunk?_red rfl, Environment.resolve, read_red]
    rfl
  have next : (Cursor.ofText Grammar.valueSeparator "color_red".toList).next? =
      some ("color".toList, ⟨1, ["red".toList]⟩) := by rfl
  have properties : relay.lexicon.propertiesOf "color".toList = ["color".toList] := by rfl
  have ordinary : relay.lexicon.aliasShorthand? "color_red".toList = none := by rfl
  have single : relay.lexicon.propertyShorthand? "color_red".toList = none := by rfl
  rw [applyPart_eq, form]
  simp only [applySimple, applyDeclaration, ordinary, single, applyProperty, next, value,
    properties]
  rfl

end Relay

/-- Three levels are enough for the first template, the second one and the first again. -/
theorem read_cycle_relay :
    let className := "cssf--tpl-day".toList
    Cycle relay 2 Relay.names Relay.own ∧
      ∃ outcome, read relay 3 className = .ok outcome ∧
        outcome.contribution.map Contribution.declarations =
          some ["color: red".toList, "color: red".toList] ∧
        outcome.notices.filter Notice.isCeilingReached = [.ceilingReached 3 className] := by
  intro className
  let reached := withRootValues (progressOf relay 3 className
    ((List.range 3).map fun turn => Relay.own (turn % 2)).flatten)
  obtain ⟨declared, outcome, done, output, warned, _⟩ := read_cycle Relay.cycle 3
  refine ⟨Relay.cycle, outcome, done, ?_, warned⟩
  have red : (progressOf relay 3 className ["color_red".toList]).contribution.declarations =
      ["color: red".toList] := by
    rw [progressOf_of_not_mem (by decide)]
    simp only [applyParts, List.foldl_cons, List.foldl_nil, Relay.applyPart_red]
    rfl
  have hover : (progressOf relay 3 className ["tar-pc-hover".toList]).contribution.declarations =
      [] := by
    rfl
  have both : reached.declarations = ["color: red".toList, "color: red".toList] := by
    refine declared.trans ?_
    show (progressOf relay 3 className ["color_red".toList]).contribution.declarations ++
      ((progressOf relay 3 className ["tar-pc-hover".toList]).contribution.declarations ++
        ((progressOf relay 3 className ["color_red".toList]).contribution.declarations ++ [])) = _
    rw [red, hover]
    rfl
  have written : reached.hasOutput = true := by
    rw [Contribution.hasOutput, both]
    rfl
  rw [output]
  exact (congrArg (Option.map _) (if_pos written)).trans (congrArg some both)

/-- An environment with a template that calls itself, after a part with a value whose arguments
cannot be counted. -/
def bottomless : Environment :=
  let first := Lexicon.empty.addTemplate "self".toList "cssf--c_tpl-big--tpl-self".toList
  ⟨first.addTemplate "big".toList "§18446744073709551614".toList, ⟨0, none, []⟩⟩

/-- A cycle down to the ceiling comes to what its parts come to, also where that is a template
whose arguments cannot be counted. -/
theorem read_cycle_bottomless :
    Cycle bottomless 1 (fun _ => "self".toList) (fun _ => ["c_tpl-big".toList]) ∧
      ∃ outcome, read bottomless 1 "cssf--tpl-self".toList = .ok outcome ∧
        .outOfRange "cssf--tpl-self".toList ∈ outcome.notices := by
  have single : inlined? bottomless.lexicon "c_tpl-big".toList = none := by rfl
  have chunk : bottomless.lexicon.nextChunk? ⟨1, ["tpl-big".toList]⟩ =
      some (⟨.outOfRange, "tpl-big".toList⟩, ⟨2, []⟩) := by rfl
  have values : valuesOf bottomless.lexicon "c_tpl-big".toList = [.outOfRange] :=
    valuesOf_of_single chunk rfl (by rfl)
  have cut : partsOf "cssf--tpl-self".toList = .ok ["tpl-self".toList] := by rfl
  have nested : inlined? bottomless.lexicon "tpl-self".toList =
      some ["c_tpl-big".toList, "tpl-self".toList] := by rfl
  constructor
  · refine ⟨Nat.one_pos, by decide, by decide, fun _ _ part member => ?_⟩
    obtain rfl : part = "c_tpl-big".toList := List.mem_singleton.1 member
    exact flat_of_values single values rfl
  · obtain ⟨outcome, done, reports⟩ := exists_read bottomless cut 1
    refine ⟨outcome, done, reports.2 ⟨_, List.mem_singleton_self _, by decide, ?_⟩⟩
    unfold overreaches
    rw [nested]
    show (overreaches bottomless.lexicon 0 "c_tpl-big".toList || _) = true
    rw [overreaches_of_single single, values]
    rfl

end AtomicCss.ClassName
