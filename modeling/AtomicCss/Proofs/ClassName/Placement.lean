import AtomicCss.Proofs.ClassName.Changes

/-!
Contract: the places of query parts and target parts among the parts of a class name.

Owns:
- lists of which each group of elements keeps its order, where the groups commute;
- the parts that can stand anywhere, and lists of parts that differ in their places only;
- the main statement about the field of each part and the order of parts.

Does not own: what a part changes.

## Why only these two kinds can be moved

All other parts share a field of the contribution or the state of the expansion: a value that
is resolved earlier is also recorded and reported earlier.  A query and a target read neither
the state nor the field that another kind of part writes.
-/

namespace AtomicCss.ClassName

open Contribution (Field Change)

/-! ## Order -/

section Order

variable {α β κ : Type} [DecidableEq κ] {step : β → α → β} {group : α → κ}

/-- An element that commutes with all elements before it can be brought to the front. -/
theorem foldl_append_cons
    {element : α}
    {before : List α}
    (commute : ∀ other ∈ before, ∀ state,
      step (step state other) element = step (step state element) other)
    (after : List α)
    (state : β) :
    (before ++ element :: after).foldl step state =
      (before ++ after).foldl step (step state element) := by
  induction before generalizing state with
  | nil => rfl
  | cons first others inductionHypothesis =>
      have rest := fun other member => commute other (List.mem_cons_of_mem first member)
      rw [List.cons_append, List.foldl_cons, inductionHypothesis rest,
        commute first (List.mem_cons_self ..)]
      rfl

/-- Two lists that have the same elements of every group, in the same order, come to the same
when elements of different groups commute. -/
theorem foldl_eq_of_filter_eq
    {first second : List α}
    (commute : ∀ one ∈ first, ∀ other ∈ first, group one ≠ group other → ∀ state,
      step (step state one) other = step (step state other) one)
    (same : ∀ key,
      (first.filter fun element => group element = key) =
        second.filter fun element => group element = key)
    (state : β) :
    first.foldl step state = second.foldl step state := by
  induction first generalizing second state with
  | nil =>
      have none : second = [] := by
        refine List.eq_nil_iff_forall_not_mem.2 fun element member => ?_
        have kept : element ∈ second.filter fun other => group other = group element := by
          simp [member]
        rw [← same] at kept
        cases kept
      rw [none]
  | cons element rest inductionHypothesis =>
      -- In the second list only elements of other groups stand before the first one of its group.
      have found := same (group element)
      rw [List.filter_cons_of_pos (by simp), eq_comm, List.filter_eq_cons_iff] at found
      obtain ⟨before, after, rfl, others, _, tail⟩ := found
      have apart : ∀ other ∈ before, group other ≠ group element := by
        intro other member
        simpa using others other member
      have members : ∀ other ∈ before, other ∈ element :: rest := by
        intro other member
        have kept : other ∈ (before ++ element :: after).filter fun one =>
            group one = group other := by simp [member]
        rw [← same] at kept
        exact (List.mem_filter.1 kept).1
      rw [List.foldl_cons, foldl_append_cons fun other member =>
        commute other (members other member) element (List.mem_cons_self ..)
          (apart other member)]
      apply inductionHypothesis
      · intro one oneMember other otherMember
        exact commute one (List.mem_cons_of_mem _ oneMember) other
          (List.mem_cons_of_mem _ otherMember)
      · intro key
        have whole := same key
        rw [List.filter_append] at whole ⊢
        by_cases own : group element = key
        · subst own
          have none : (before.filter fun other => group other = group element) = [] := by
            simpa using apart
          rw [none, tail, List.nil_append]
        · rw [List.filter_cons_of_neg (by simpa using own),
            List.filter_cons_of_neg (by simpa using own)] at whole
          exact whole

end Order

/-- Whether a part can stand anywhere among the others. -/
inductive Placement where
  | query
  | target
  | other
deriving DecidableEq, Repr

/-- The placement of a part: it is told by the field that the part can change. -/
def placementOf (part : Text) : Placement :=
  match fieldOf? part with
  | some .atRule => .query
  | some .selector => .target
  | _ => .other

/-- Two lists of parts are the same but for the places of their query parts and target parts:
they have the same query parts, the same target parts and the same other parts, each in the same
order. -/
def SameButPlaces (parts others : List Text) : Prop :=
  ∀ placement,
    (parts.filter fun part => placementOf part = placement) =
      others.filter fun part => placementOf part = placement

/-- The change of a query part or of a target part does not depend on the state, which stays as
it is. -/
theorem makes_of_placement
    (environment : Environment)
    {part : Text}
    (movable : placementOf part ≠ .other) :
    ∃ change, fieldOf? part = some change.field ∧
      ∀ state, Makes environment part state change state := by
  have ordinary : part ≠ Grammar.unimportant := by
    rintro rfl
    exact movable rfl
  have written : part ≠ [] := by
    rintro rfl
    exact movable rfl
  have kind : fieldOf? part = (PartKind.classify part).field? := if_neg ordinary
  have read {field : Field} (own : (PartKind.classify part).field? = some field) :=
    applyPart_of_field environment written ordinary own
  rw [placementOf, kind] at movable
  rw [kind]
  unfold Makes
  cases classified : PartKind.classify part with
  | mediaQuery =>
      rw [classified] at read
      refine ⟨.confine (Query.media? part), rfl, fun state levels contribution => ?_⟩
      rw [read rfl]
      exact confine_eq state contribution _
  | containerQuery =>
      rw [classified] at read
      refine ⟨.confine (Query.container? part), rfl, fun state levels contribution => ?_⟩
      rw [read rfl]
      exact confine_eq state contribution _
  | target =>
      rw [classified] at read
      refine ⟨.select (part.drop Grammar.target.length), rfl, fun state levels contribution => ?_⟩
      rw [read rfl]
      rfl
  | _ =>
      rw [classified] at movable
      exact absurd rfl movable

/-- Two parts of different placements that are no templates come to the same in any order. -/
theorem applyParts_pair_comm
    (environment : Environment)
    {first second : Text}
    (firstOwn : fieldOf? first ≠ none)
    (secondOwn : fieldOf? second ≠ none)
    (apart : placementOf first ≠ placementOf second)
    (progress : Progress) :
    applyParts environment [first, second] progress =
      applyParts environment [second, first] progress := by
  obtain ⟨contribution, state⟩ := progress
  -- One of the two is a query or a target, and its change is the same in all states.
  have step {moved fixed : Text}
      (movable : placementOf moved ≠ .other)
      (own : fieldOf? fixed ≠ none)
      (differ : placementOf moved ≠ placementOf fixed) :
      applyParts environment [moved, fixed] ⟨contribution, state⟩ =
        applyParts environment [fixed, moved] ⟨contribution, state⟩ := by
    obtain ⟨field, found⟩ := Option.ne_none_iff_exists'.1 own
    obtain ⟨change, touched, makes⟩ := makes_of_placement environment movable
    obtain ⟨other, after, same, makesOther⟩ := makes_of_field environment state found
    have fields : change.field ≠ other.field := by
      intro equal
      apply differ
      rw [placementOf, placementOf, touched, found, equal, same]
    simp only [applyParts, List.foldl_cons, List.foldl_nil, makes state _ _, makes after _ _,
      makesOther _ _, contribution.apply_comm fields]
  by_cases movable : placementOf first = .other
  · have second' : placementOf second ≠ .other := movable ▸ apart.symm
    exact (step second' firstOwn apart.symm).symm
  · exact step movable secondOwn apart

/-- Query parts and target parts can stand anywhere among parts that are no templates. -/
theorem applyParts_eq_of_sameButPlaces
    (environment : Environment)
    {parts others : List Text}
    (plain : ∀ part ∈ parts, fieldOf? part ≠ none)
    (same : SameButPlaces parts others)
    (progress : Progress) :
    applyParts environment parts progress = applyParts environment others progress := by
  have commute : ∀ one ∈ parts, ∀ other ∈ parts, placementOf one ≠ placementOf other → ∀ state,
      applyParts environment [one, other] state = applyParts environment [other, one] state := by
    intro one oneMember other otherMember apart state
    exact applyParts_pair_comm environment (plain one oneMember) (plain other otherMember) apart
      state
  exact foldl_eq_of_filter_eq commute same progress

/-- Every part keeps the class name, only adds to the declarations, those on the root element
included, and never turns importance on.  A part that is no template changes no field but that of
its kind.  So query parts and target parts can be moved to any places among parts that are no
templates: as long as the query parts keep their order, and the target parts theirs, the parts
come to the same contribution, and to the same state of the expansion. -/
theorem parts_keep_to_their_fields (environment : Environment) :
    (∀ levels part (progress : Progress),
      progress.contribution.Grows (applyPart environment levels part progress).contribution) ∧
    (∀ levels part (progress : Progress), ∀ field ∈ fieldOf? part,
      progress.contribution.AgreesBut field
        (applyPart environment levels part progress).contribution) ∧
    (∀ parts others,
      (∀ part ∈ parts, PartKind.classify part ≠ .template) → SameButPlaces parts others →
        ∀ progress,
          applyParts environment parts progress = applyParts environment others progress) := by
  refine ⟨grows_applyPart environment, ?_, ?_⟩
  · intro levels part progress field own
    obtain ⟨change, after, rfl, makes⟩ := makes_of_field environment progress.state own
    have added := makes levels progress.contribution
    rw [added]
    exact progress.contribution.agreesBut_apply change
  · intro parts others plain same
    exact applyParts_eq_of_sameButPlaces environment
      (fun part member => fieldOf?_ne_none (plain part member)) same

/-- A query and a target in front of a declaration, and the other way round. -/
theorem parts_keep_to_their_fields_hover :
    let parts := ["mq768".toList, "tar-pc-hover".toList, "c_red".toList]
    let others := ["c_red".toList, "tar-pc-hover".toList, "mq768".toList]
    (∀ part ∈ parts, PartKind.classify part ≠ .template) ∧ SameButPlaces parts others ∧
      applyParts palette parts Palette.start = applyParts palette others Palette.start ∧
      fieldOf? "mq768".toList = some .atRule ∧
      Palette.start.contribution.AgreesBut .atRule
        (applyPart palette 1 "mq768".toList Palette.start).contribution := by
  intro parts others
  have plain : ∀ part ∈ parts, PartKind.classify part ≠ .template := by decide
  have same : SameButPlaces parts others := by
    intro placement
    cases placement <;> rfl
  have own : fieldOf? "mq768".toList = some .atRule := by rfl
  obtain ⟨_, keeps, moves⟩ := parts_keep_to_their_fields palette
  exact ⟨plain, same, moves parts others plain same Palette.start, own,
    keeps 1 _ Palette.start _ own⟩

end AtomicCss.ClassName
