import AtomicCss.Proofs.ClassName.Uniform
import AtomicCss.Proofs.OrderedMap
import AtomicCss.Proofs.Value.Reading

/-!
Contract: the frames of an animation hold all that its part says, sorted by selector.

Owns:
- the steps in which a part is read: selectors, properties with their values, and tokens that
  declare nothing;
- the frames that steps leave, with their selectors and their declarations;
- the main statement: the tokens of a part fall into such steps, and its frames are those of the
  steps.

Does not own: which tokens a value takes, and what it is resolved to.

## Values that cannot be read

A template with more arguments than can be counted ends the reading of a part with a failure, of
which there is a notice.  The steps go on behind it, as with an empty value, and what is said of
them is said of those before it too.
-/

namespace AtomicCss

namespace OrderedMap

universe u v

variable {κ : Type u} {α : Type v} [DecidableEq κ]

theorem get?_alter (map : OrderedMap κ α) (key other : κ) (change : Option α → α) :
    (map.alter key change).get? other =
      if key = other then some (change (map.get? key)) else map.get? other :=
  get?_insert map key other _

theorem keySet_alter (map : OrderedMap κ α) (key : κ) (change : Option α → α) :
    (map.alter key change).keySet = map.keySet.insert key :=
  keySet_insert map key _

end OrderedMap

namespace Keyframes

/-! ## Steps -/

/-- What tokens of an animation are read as. -/
inductive Step where
  /-- A token before the first selector. -/
  | skip (token : Text)
  /-- A selector, which is the current one from here on. -/
  | select (token selector : Text)
  /-- A property under the current selector, with the tokens of its value and their text. -/
  | pair (selector property : Text) (taken : List Text) (value : Text)
  /-- A property at the end, with no value after it. -/
  | lone (property : Text)
deriving DecidableEq, Repr

namespace Step

/-- The tokens that are read in the step. -/
def tokens : Step → List Text
  | .skip token | .select token _ | .lone token => [token]
  | .pair _ property taken _ => property :: taken

/-- The selector that the step makes the current one. -/
def selector? : Step → Option Text
  | .select _ selector => some selector
  | _ => none

/-- What the step declares in the frame of a selector: the value for each property that the
property stands for, unless the value is empty. -/
def declarations (lexicon : Lexicon) (frame : Text) : Step → List Text
  | .pair selector property _ value =>
      if selector = frame ∧ value ≠ [] then
        (lexicon.propertiesOf property).map fun name => name ++ ": ".toList ++ value
      else
        []
  | _ => []

/-- The frames after the step. -/
def apply (lexicon : Lexicon) (frames : OrderedMap Text (List Text)) :
    Step → OrderedMap Text (List Text)
  | .select _ selector => frames.alter selector fun declarations => declarations.getD []
  | .pair selector property _ value =>
      declareIn frames selector (lexicon.propertiesOf property) value
  | .skip _ | .lone _ => frames

end Step

/-- The steps in which a stream is read, where `current` is the selector of the frame that
declarations go to.  A token is looked at as a selector or a property only when the value before
it has taken its tokens. -/
inductive Reads (environment : Environment) :
    Option Text → Cursor → Expansion → List Step → Expansion → Prop where
  | done (current : Option Text) (position : Nat) (state : Expansion) :
      Reads environment current ⟨position, []⟩ state [] state
  | select
      {current : Option Text}
      {position : Nat}
      {token selector : Text}
      {rest : List Text}
      {state last : Expansion}
      {steps : List Step}
      (kind : selectorOf? token = some selector)
      (others : Reads environment (some selector) ⟨position + 1, rest⟩ state steps last) :
      Reads environment current ⟨position, token :: rest⟩ state
        (.select token selector :: steps) last
  | skip
      {position : Nat}
      {token : Text}
      {rest : List Text}
      {state last : Expansion}
      {steps : List Step}
      (kind : selectorOf? token = none)
      (others : Reads environment none ⟨position + 1, rest⟩ state steps last) :
      Reads environment none ⟨position, token :: rest⟩ state (.skip token :: steps) last
  | pair
      {selector token : Text}
      {position : Nat}
      {rest taken : List Text}
      {state last : Expansion}
      {consumed : Environment.Consumed}
      {steps : List Step}
      (kind : selectorOf? token = none)
      (read : environment.consume? ⟨position + 1, rest⟩ state = some consumed)
      (split : taken ++ consumed.remaining.rest = rest)
      (others :
        Reads environment (some selector) consumed.remaining consumed.state steps last) :
      Reads environment (some selector) ⟨position, token :: rest⟩ state
        (.pair selector token taken consumed.value :: steps) last
  | lone
      {selector token : Text}
      (position : Nat)
      (state : Expansion)
      (kind : selectorOf? token = none) :
      Reads environment (some selector) ⟨position, [token]⟩ state [.lone token] state

section Frames

variable (lexicon : Lexicon) (frames : OrderedMap Text (List Text))

/-! ### Frames of steps -/

/-- One step adds what it declares under a selector to what is declared there. -/
theorem getD_apply (selector : Text) (step : Step) :
    ((step.apply lexicon frames).get? selector).getD [] =
      (frames.get? selector).getD [] ++ step.declarations lexicon selector := by
  cases step with
  | skip token => simp [Step.apply, Step.declarations]
  | lone property => simp [Step.apply, Step.declarations]
  | select token chosen =>
      have none : (Step.select token chosen).declarations lexicon selector = [] := rfl
      rw [Step.apply, OrderedMap.get?_alter, none, List.append_nil]
      by_cases same : chosen = selector
      · rw [if_pos same, same]
        rfl
      · rw [if_neg same]
  | pair chosen property taken value =>
      rw [Step.apply, Step.declarations, declareIn]
      by_cases empty : value = []
      · simp [empty]
      · rw [if_neg empty, OrderedMap.get?_alter]
        by_cases same : chosen = selector
        · rw [if_pos same, if_pos ⟨same, empty⟩, same]
          rfl
        · rw [if_neg same, if_neg fun both => same both.1, List.append_nil]

/-- All steps add what they declare under a selector, in their order. -/
theorem getD_foldl_apply (selector : Text) (steps : List Step) :
    ((steps.foldl (Step.apply lexicon) frames).get? selector).getD [] =
      (frames.get? selector).getD [] ++ steps.flatMap (Step.declarations lexicon selector) := by
  induction steps generalizing frames with
  | nil => simp
  | cons step others inductionHypothesis =>
      rw [List.foldl_cons, inductionHypothesis, getD_apply, List.flatMap_cons, List.append_assoc]

end Frames

/-! ## Streams -/

section Streams

variable {environment : Environment} {cursor : Cursor} {current : Option Text}
  {state last : Expansion} {steps : List Step}

/-- Every token is read in one step. -/
theorem Reads.tokens (reads : Reads environment current cursor state steps last) :
    steps.flatMap Step.tokens = cursor.rest := by
  induction reads with
  | done | lone => rfl
  | select _ _ inductionHypothesis | skip _ _ inductionHypothesis =>
      rw [List.flatMap_cons, inductionHypothesis]
      rfl
  | pair _ _ split _ inductionHypothesis =>
      rw [List.flatMap_cons, inductionHypothesis, ← split]
      rfl

/-- A frame is added by the selector that mentions it first, and by nothing else: a declaration
goes to a frame that is there. -/
theorem Reads.keySet
    (reads : Reads environment current cursor state steps last)
    {frames : OrderedMap Text (List Text)}
    (begun : ∀ selector ∈ current, selector ∈ frames.keys) :
    (steps.foldl (Step.apply environment.lexicon) frames).keySet =
      frames.keySet.insertAll (steps.filterMap Step.selector?) := by
  induction reads generalizing frames with
  | done | lone => rfl
  | skip _ _ inductionHypothesis => exact inductionHypothesis begun
  | @select current position token selector rest state last steps kind others
      inductionHypothesis =>
      have chosen := OrderedMap.keySet_alter frames selector fun declarations =>
        declarations.getD []
      have there : selector ∈ (Step.apply environment.lexicon frames
          (.select token selector)).keys := by
        let altered := frames.alter selector fun declarations => declarations.getD []
        show selector ∈ altered.keySet.members
        rw [chosen, OrderedSet.members_insert]
        split <;> simp_all
      rw [List.foldl_cons, inductionHypothesis fun other same => Option.some.inj same ▸ there]
      show (frames.alter selector _).keySet.insertAll _ = _
      rw [chosen]
      rfl
  | @pair selector token position rest taken state last consumed steps kind read split others
      inductionHypothesis =>
      have there : selector ∈ frames.keySet.members := begun selector rfl
      have same : (Step.apply environment.lexicon frames
          (.pair selector token taken consumed.value)).keySet = frames.keySet := by
        rw [Step.apply, declareIn]
        split
        · rfl
        · rw [OrderedMap.keySet_alter, OrderedSet.insert, dif_neg (not_not.2 there)]
      have kept : selector ∈ (Step.apply environment.lexicon frames
          (.pair selector token taken consumed.value)).keySet.members := by
        rw [same]
        exact there
      rw [List.foldl_cons, inductionHypothesis fun other equal => Option.some.inj equal ▸ kept,
        same]
      rfl

variable (environment)

/-- Frames are read in steps. -/
theorem exists_reads
    (cursor : Cursor)
    (frames : OrderedMap Text (List Text))
    (current : Option Text)
    (state : Expansion) :
    ∃ steps last,
      Reads environment current cursor state steps last ∧
      framesOf environment cursor frames current state =
        (steps.foldl (Step.apply environment.lexicon) frames, last) := by
  induction cursor, current using frames_induction environment.lexicon
    generalizing frames state with
  | nil position current =>
      exact ⟨[], state, .done current position state, by rw [framesOf_nil]; rfl⟩
  | selector position token rest current chosen kind inductionHypothesis =>
      obtain ⟨steps, last, reads, same⟩ := inductionHypothesis
        (frames.alter chosen fun declarations => declarations.getD []) state
      refine ⟨_, last, .select kind reads, ?_⟩
      rw [framesOf_selector environment frames current kind, same]
      rfl
  | skip position token rest kind inductionHypothesis =>
      obtain ⟨steps, last, reads, same⟩ := inductionHypothesis frames state
      refine ⟨_, last, .skip kind reads, ?_⟩
      rw [framesOf_skip environment frames kind, same]
      rfl
  | property position token rest chosen kind inductionHypothesis =>
      rw [framesOf_property environment kind]
      cases rest with
      | nil => exact ⟨_, state, .lone position state kind, rfl⟩
      | cons next more =>
          obtain ⟨⟨chunk, later⟩, found⟩ : ∃ found,
              environment.lexicon.consume? ⟨position + 1, next :: more⟩ = some found :=
            ⟨_, environment.lexicon.consume?_cons next (position + 1) more⟩
          obtain ⟨taken, split⟩ := Lexicon.exists_taken_of_consume? found
          let value := (environment.lexicon.readChunk chunk).eval environment.ambient state
          have read : environment.consume? ⟨position + 1, next :: more⟩ state =
              some ⟨value.1, later, value.2⟩ := by
            rw [environment.consume?_eq, found]
            rfl
          obtain ⟨steps, last, reads, same⟩ := inductionHypothesis chunk later found
            (declareIn frames chosen (environment.lexicon.propertiesOf token) value.1) value.2
          refine ⟨_, last, .pair kind read split reads, ?_⟩
          rw [found]
          exact same

end Streams

/-! ## Parts -/

/-- A named animation has a frame for each selector that its part mentions, where it is mentioned
first, and in the frame what is declared under the selector wherever it is the current one.  No
token of the part is left out or read twice. -/
theorem read?_in_steps
    (environment : Environment)
    {part : Text}
    (named : nameOf part ≠ [])
    (state : Expansion) :
    ∃ frames steps last,
      read? environment part state = (some ⟨nameOf part, frames⟩, last) ∧
      Reads environment none ((Cursor.ofText Grammar.valueSeparator part).take 1).2 state
        steps last ∧
      steps.flatMap Step.tokens = (Cursor.tokens Grammar.valueSeparator part).tail ∧
      (frames.map Prod.fst).Nodup ∧
      frames.map Prod.fst = (steps.filterMap Step.selector?).eraseDups ∧
      ∀ frame ∈ frames,
        frame.2 = steps.flatMap (Step.declarations environment.lexicon frame.1) := by
  let cursor := ((Cursor.ofText Grammar.valueSeparator part).take 1).2
  obtain ⟨steps, last, reads, same⟩ := exists_reads environment cursor .empty none state
  let frames := steps.foldl (Step.apply environment.lexicon) OrderedMap.empty
  have keys : frames.keySet = OrderedSet.ofList (steps.filterMap Step.selector?) :=
    reads.keySet fun _ never => nomatch never
  refine ⟨frames.entries, steps, last, ?_, reads, ?_, frames.distinct, ?_, ?_⟩
  · have given : framesOf environment cursor .empty none state = (frames, last) := same
    unfold framesOf at given
    rw [Prod.mk.injEq] at given
    simp only [read?, if_neg named]
    rw [given.1, given.2]
  · rw [reads.tokens]
    exact List.drop_one
  · rw [← OrderedSet.members_ofList, ← keys]
    rfl
  · rintro ⟨selector, declarations⟩ member
    have declared := getD_foldl_apply environment.lexicon .empty selector steps
    rw [OrderedMap.get?_eq_some_iff.2 member] at declared
    exact declared

/-- A frame that is come back to, an empty value, and tokens in front of the first selector and at
the end. -/
theorem read?_in_steps_twice :
    let part := "kf-k_c_red_from_c_rval-x_from_50p_c__from_m_red_to".toList
    let fresh := Environment.Ruled.fresh
    nameOf part ≠ [] ∧
      ∃ frames steps last,
        read? Environment.ruled part fresh = (some ⟨"k".toList, frames⟩, last) ∧
        Reads Environment.ruled none ((Cursor.ofText Grammar.valueSeparator part).take 1).2 fresh
          steps last ∧
        frames.map Prod.fst = (steps.filterMap Step.selector?).eraseDups := by
  intro part fresh
  have named : nameOf part ≠ [] := by decide
  obtain ⟨frames, steps, last, read, reads, _, _, keys, _⟩ :=
    read?_in_steps Environment.ruled named fresh
  exact ⟨named, frames, steps, last, read, reads, keys⟩

end Keyframes

end AtomicCss
