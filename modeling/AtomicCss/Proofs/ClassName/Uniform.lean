import AtomicCss.Proofs.ClassName.Form
import AtomicCss.Proofs.Expansion.Renaming
import AtomicCss.Proofs.Value.Ceiling

/-!
Contract: reading a part without a template is uniform.

Owns:
- the frames of animations and the descriptors of font faces, the induction along the streams that
  they are read from, and what they come to in two surroundings;
- what a change of progress does to the state of an expansion;
- the property for every kind of part without a template.

Does not own: templates.
-/

namespace AtomicCss

open Expansion

/-! ## Animations and font faces -/

section Streams

variable (environment : Environment)

/-- The frames read from a stream, with the state that reading them leaves. -/
def Keyframes.framesOf (cursor : Cursor) (frames : OrderedMap Text (List Text))
    (current : Option Text) (state : Expansion) : OrderedMap Text (List Text) × Expansion :=
  let draft := readFrames environment cursor ⟨frames, current, state⟩
  (draft.frames, draft.state)

/-- The frames with a property declared in one of them, unless the value is empty. -/
def Keyframes.declareIn (frames : OrderedMap Text (List Text)) (selector : Text)
    (properties : List Text) (value : Text) : OrderedMap Text (List Text) :=
  if value = [] then
    frames
  else
    frames.alter selector fun declarations =>
      declarations.getD [] ++ properties.map fun property => property ++ ": ".toList ++ value

/-- A token in a frame is a property, and the value that follows it is declared. -/
theorem Keyframes.framesOf_property
    {position : Nat}
    {token selector : Text}
    {rest : List Text}
    {frames : OrderedMap Text (List Text)}
    (ordinary : selectorOf? token = none)
    (state : Expansion) :
    framesOf environment ⟨position, token :: rest⟩ frames (some selector) state =
      match environment.lexicon.consume? ⟨position + 1, rest⟩ with
      | none => (frames, state)
      | some (chunk, remaining) =>
          let value := (environment.lexicon.readChunk chunk).eval environment.ambient state
          framesOf environment remaining
            (declareIn frames selector (environment.lexicon.propertiesOf token) value.1)
            (some selector) value.2 := by
  have taken := environment.consume?_eq ⟨position + 1, rest⟩ state
  rw [framesOf, readFrames]
  simp only [ordinary]
  cases found : environment.lexicon.consume? ⟨position + 1, rest⟩ with
  | none =>
      rw [found, Option.map_none] at taken
      split
      · rfl
      · simp_all
  | some consumed =>
      rw [found, Option.map_some] at taken
      split
      · simp_all
      · rename_i read
        rw [taken] at read
        cases read
        simp only [framesOf, declareIn, Draft.declare]
        split <;> rfl

theorem Keyframes.framesOf_nil
    (position : Nat)
    (frames : OrderedMap Text (List Text))
    (current : Option Text) :
    framesOf environment ⟨position, []⟩ frames current = fun state => (frames, state) := by
  funext state
  rw [framesOf, readFrames]

/-- A token that is a selector starts a frame, or comes back to one. -/
theorem Keyframes.framesOf_selector
    {position : Nat}
    {token selector : Text}
    {rest : List Text}
    (frames : OrderedMap Text (List Text))
    (current : Option Text)
    (kind : selectorOf? token = some selector) :
    framesOf environment ⟨position, token :: rest⟩ frames current =
      framesOf environment ⟨position + 1, rest⟩
        (frames.alter selector fun declarations => declarations.getD []) (some selector) := by
  funext state
  rw [framesOf, readFrames]
  simp only [kind]
  rfl

/-- Other tokens before the first selector are skipped. -/
theorem Keyframes.framesOf_skip
    {position : Nat}
    {token : Text}
    {rest : List Text}
    (frames : OrderedMap Text (List Text))
    (kind : selectorOf? token = none) :
    framesOf environment ⟨position, token :: rest⟩ frames none =
      framesOf environment ⟨position + 1, rest⟩ frames none := by
  funext state
  rw [framesOf, readFrames]
  simp only [kind]
  rfl

/-- Induction along a stream of frames, with the selector of the frame that has begun.  A property
leads on to what its value leaves, if a value follows it. -/
theorem Keyframes.frames_induction
    (lexicon : Lexicon)
    {motive : Cursor → Option Text → Prop}
    (nil : ∀ position current, motive ⟨position, []⟩ current)
    (selector :
      ∀ position (token : Text) rest current chosen,
        selectorOf? token = some chosen →
        motive ⟨position + 1, rest⟩ (some chosen) →
        motive ⟨position, token :: rest⟩ current)
    (skip :
      ∀ position (token : Text) rest,
        selectorOf? token = none →
        motive ⟨position + 1, rest⟩ none →
        motive ⟨position, token :: rest⟩ none)
    (property :
      ∀ position (token : Text) rest chosen,
        selectorOf? token = none →
        (∀ chunk remaining,
          lexicon.consume? ⟨position + 1, rest⟩ = some (chunk, remaining) →
          motive remaining (some chosen)) →
        motive ⟨position, token :: rest⟩ (some chosen))
    (cursor : Cursor)
    (current : Option Text) :
    motive cursor current := by
  induction remaining : cursor.rest.length using Nat.strongRecOn generalizing cursor current with
  | ind remaining inductionHypothesis =>
      subst remaining
      obtain ⟨position, rest⟩ := cursor
      cases rest with
      | nil => exact nil position current
      | cons token rest =>
          have shorter : rest.length < (token :: rest).length := Nat.lt_succ_self _
          cases kind : selectorOf? token with
          | some chosen =>
              exact selector _ _ _ _ _ kind (inductionHypothesis _ shorter _ _ rfl)
          | none =>
              cases current with
              | none => exact skip _ _ _ kind (inductionHypothesis _ shorter _ _ rfl)
              | some chosen =>
                  refine property _ _ _ _ kind fun chunk remaining read => ?_
                  have fewer := Nat.lt_trans (Lexicon.length_rest_of_consume? read) shorter
                  exact inductionHypothesis _ fewer _ _ rfl

/-- The descriptors read from a stream, with the state that reading them leaves. -/
def FontFace.descriptorsOf (cursor : Cursor) (descriptors : List Text) (state : Expansion) :
    List Text × Expansion :=
  let draft := readDescriptors environment cursor ⟨descriptors, state⟩
  (draft.descriptors, draft.state)

theorem FontFace.descriptorsOf_nil (position : Nat) (descriptors : List Text) :
    descriptorsOf environment ⟨position, []⟩ descriptors =
      fun state => (descriptors, state) := by
  funext state
  rw [descriptorsOf, readDescriptors]

/-- A token is a property, and the value that follows it describes the font face. -/
theorem FontFace.descriptorsOf_cons
    {position : Nat}
    {token : Text}
    {rest descriptors : List Text}
    (state : Expansion) :
    descriptorsOf environment ⟨position, token :: rest⟩ descriptors state =
      match environment.lexicon.consume? ⟨position + 1, rest⟩ with
      | none => (descriptors, state)
      | some (chunk, remaining) =>
          let value := (environment.lexicon.readChunk chunk).eval environment.ambient state
          descriptorsOf environment remaining
            (descriptors ++ (environment.lexicon.propertiesOf token).map fun property =>
              property ++ ": ".toList ++ value.1)
            value.2 := by
  have taken := environment.consume?_eq ⟨position + 1, rest⟩ state
  rw [descriptorsOf, readDescriptors]
  cases found : environment.lexicon.consume? ⟨position + 1, rest⟩ with
  | none =>
      rw [found, Option.map_none] at taken
      split
      · rfl
      · simp_all
  | some consumed =>
      rw [found, Option.map_some] at taken
      split
      · simp_all
      · rename_i read
        rw [taken] at read
        cases read
        rfl

/-- Induction along a stream of descriptors. -/
theorem FontFace.descriptors_induction
    (lexicon : Lexicon)
    {motive : Cursor → Prop}
    (nil : ∀ position, motive ⟨position, []⟩)
    (property :
      ∀ position (token : Text) rest,
        (∀ chunk remaining,
          lexicon.consume? ⟨position + 1, rest⟩ = some (chunk, remaining) → motive remaining) →
        motive ⟨position, token :: rest⟩)
    (cursor : Cursor) :
    motive cursor := by
  induction remaining : cursor.rest.length using Nat.strongRecOn generalizing cursor with
  | ind remaining inductionHypothesis =>
      subst remaining
      obtain ⟨position, rest⟩ := cursor
      cases rest with
      | nil => exact nil position
      | cons token rest =>
          refine property _ _ _ fun chunk remaining read => ?_
          have fewer := Nat.lt_succ_of_lt (Lexicon.length_rest_of_consume? read)
          exact inductionHypothesis _ fewer _ rfl

end Streams

/-! ### Two surroundings -/

section Related

variable
  {Related : ∀ {α : Type}, (Expansion → α × Expansion) → (Expansion → α × Expansion) → Prop}
  (composable : Composable Related)
  {lexicon : Lexicon}
  {ambient other : Ambient}
  (values : ∀ chunk,
    Related ((lexicon.readChunk chunk).eval ambient) ((lexicon.readChunk chunk).eval other))

include composable values

/-- Which tokens are read together depends on the lexicon alone, so frames are related as their
values are. -/
theorem Keyframes.related_framesOf
    (cursor : Cursor)
    (frames : OrderedMap Text (List Text))
    (current : Option Text) :
    Related (framesOf ⟨lexicon, ambient⟩ cursor frames current)
      (framesOf ⟨lexicon, other⟩ cursor frames current) := by
  induction cursor, current using frames_induction lexicon generalizing frames with
  | nil position current =>
      rw [framesOf_nil, framesOf_nil]
      exact composable.pure frames
  | selector position token rest current chosen kind inductionHypothesis =>
      rw [framesOf_selector ⟨lexicon, ambient⟩ frames current kind,
        framesOf_selector ⟨lexicon, other⟩ frames current kind]
      exact inductionHypothesis _
  | skip position token rest kind inductionHypothesis =>
      rw [framesOf_skip ⟨lexicon, ambient⟩ frames kind, framesOf_skip ⟨lexicon, other⟩ frames kind]
      exact inductionHypothesis frames
  | property position token rest chosen kind inductionHypothesis =>
      rw [funext (framesOf_property ⟨lexicon, ambient⟩ kind),
        funext (framesOf_property ⟨lexicon, other⟩ kind)]
      cases found : lexicon.consume? ⟨position + 1, rest⟩ with
      | none => exact composable.pure frames
      | some consumed =>
          let after (surroundings : Ambient) (value : Text) :=
            framesOf ⟨lexicon, surroundings⟩ consumed.2
              (declareIn frames chosen (lexicon.propertiesOf token) value) (some chosen)
          exact composable.bind (after ambient) (after other) (values consumed.1) fun value =>
            inductionHypothesis consumed.1 consumed.2 found _

theorem Keyframes.related_read? (part : Text) :
    Related (read? ⟨lexicon, ambient⟩ part) (read? ⟨lexicon, other⟩ part) := by
  by_cases unnamed : nameOf part = []
  · have read (surroundings : Ambient) :
        read? ⟨lexicon, surroundings⟩ part = fun state => (none, state) := by
      funext state
      simp only [read?, if_pos unnamed]
    rw [read, read]
    exact composable.pure none
  · let cursor := ((Cursor.ofText Grammar.valueSeparator part).take 1).2
    have read (surroundings : Ambient) :
        read? ⟨lexicon, surroundings⟩ part = fun state =>
          let frames := framesOf ⟨lexicon, surroundings⟩ cursor .empty none state
          (some ⟨nameOf part, frames.1.entries⟩, frames.2) := by
      funext state
      simp only [read?, if_neg unnamed]
      rfl
    rw [read, read]
    exact composable.map (related_framesOf composable values cursor .empty none)
      fun frames => some (Keyframes.mk (nameOf part) frames.entries)

theorem FontFace.related_descriptorsOf (cursor : Cursor) (descriptors : List Text) :
    Related (descriptorsOf ⟨lexicon, ambient⟩ cursor descriptors)
      (descriptorsOf ⟨lexicon, other⟩ cursor descriptors) := by
  induction cursor using descriptors_induction lexicon generalizing descriptors with
  | nil position =>
      rw [descriptorsOf_nil, descriptorsOf_nil]
      exact composable.pure descriptors
  | property position token rest inductionHypothesis =>
      rw [funext (descriptorsOf_cons ⟨lexicon, ambient⟩),
        funext (descriptorsOf_cons ⟨lexicon, other⟩)]
      cases found : lexicon.consume? ⟨position + 1, rest⟩ with
      | none => exact composable.pure descriptors
      | some consumed =>
          let after (surroundings : Ambient) (value : Text) :=
            descriptorsOf ⟨lexicon, surroundings⟩ consumed.2
              (descriptors ++ (lexicon.propertiesOf token).map fun property =>
                property ++ ": ".toList ++ value)
          exact composable.bind (after ambient) (after other) (values consumed.1) fun value =>
            inductionHypothesis consumed.1 consumed.2 found _

theorem FontFace.related_read? (part : Text) :
    Related (read? ⟨lexicon, ambient⟩ part) (read? ⟨lexicon, other⟩ part) := by
  by_cases unnamed : familyOf part = []
  · have read (surroundings : Ambient) :
        read? ⟨lexicon, surroundings⟩ part = fun state => (none, state) := by
      funext state
      simp only [read?, if_pos unnamed]
    rw [read, read]
    exact composable.pure none
  · let cursor := ((Cursor.ofText Grammar.valueSeparator part).take 1).2
    let family := ["font-family: ".toList ++ Text.quoted (familyOf part)]
    have read (surroundings : Ambient) :
        read? ⟨lexicon, surroundings⟩ part = fun state =>
          let descriptors := descriptorsOf ⟨lexicon, surroundings⟩ cursor family state
          (some (write descriptors.1), descriptors.2) := by
      funext state
      simp only [read?, if_neg unnamed]
      rfl
    rw [read, read]
    exact composable.map (related_descriptorsOf composable values cursor family)
      fun descriptors => some (write descriptors)

end Related

section Streams

variable (environment : Environment)

/-- The values of a chunk are resolved uniformly, each in its own surroundings. -/
theorem Environment.uniform_readChunk (chunk : Chunk) :
    let resolve := (environment.lexicon.readChunk chunk).eval environment.ambient
    resolve = resolve ∧ Uniform resolve :=
  ⟨rfl, Value.uniform_eval environment.ambient _⟩

theorem Keyframes.uniform_read? (part : Text) : Uniform (read? environment part) :=
  (related_read? Uniform.composable environment.uniform_readChunk part).2

theorem FontFace.uniform_read? (part : Text) : Uniform (read? environment part) :=
  (related_read? Uniform.composable environment.uniform_readChunk part).2

end Streams

namespace ClassName

variable (environment : Environment)

/-! ## Parts without a template -/

/-- What a change of progress does to a state, beginning with a contribution. -/
def effectOf (change : Progress → Progress) (contribution : Contribution)
    (state : Expansion) : Contribution × Expansion :=
  let changed := change ⟨contribution, state⟩
  (changed.contribution, changed.state)

theorem uniform_confine (atRule : Option Text) (contribution : Contribution) :
    Uniform (effectOf (confine · atRule) contribution) := by
  cases atRule with
  | none => exact Uniform.pure fun _ => contribution
  | some atRule => exact Uniform.pure fun _ => { contribution with atRule := atRule }

theorem uniform_applyNamed
    (marker part : Text)
    (add : Contribution → Text → Text → Contribution)
    (contribution : Contribution) :
    Uniform (effectOf (applyNamed environment marker part add) contribution) := by
  let change := fun value =>
    if nameAfter marker part = [] ∨ value = [] then
      contribution
    else
      add contribution (nameAfter marker part) value
  have read : effectOf (applyNamed environment marker part add) contribution = fun state =>
      let value := environment.resolveText (Text.beyond Grammar.valueSeparator part) state
      (change value.1, value.2) := by
    funext state
    simp only [effectOf, applyNamed, change]
    split <;> rfl
  rw [read]
  exact (environment.uniform_resolveText _).map change

theorem uniform_applyNumeric
    (properties : List Text)
    (number : Text)
    (contribution : Contribution) :
    Uniform (effectOf (applyNumeric environment properties number) contribution) :=
  (environment.uniform_resolve number).map fun value =>
    contribution.declare
      (properties.map fun property => declaration property (Units.scaleToRem value))

theorem uniform_applyProperty (part : Text) (contribution : Contribution) :
    Uniform (effectOf (applyProperty environment part) contribution) := by
  cases next : (Cursor.ofText Grammar.valueSeparator part).next? with
  | none =>
      have read : effectOf (applyProperty environment part) contribution =
          fun state => (contribution, state) := by
        funext state
        simp only [effectOf, applyProperty, next]
      rw [read]
      exact Uniform.pure fun _ => contribution
  | some taken =>
      let change := fun value =>
        if value = [] then
          contribution
        else
          contribution.declare
            ((environment.lexicon.propertiesOf taken.1).map fun property =>
              declaration property value)
      have read : effectOf (applyProperty environment part) contribution = fun state =>
          let value := environment.resolveStream taken.2 state
          (change value.1, value.2) := by
        funext state
        simp only [effectOf, applyProperty, next, change]
        split <;> rfl
      rw [read]
      exact (environment.uniform_resolveStream _).map change

theorem uniform_applyDeclaration (part : Text) (contribution : Contribution) :
    Uniform (effectOf (applyDeclaration environment part) contribution) := by
  unfold effectOf applyDeclaration
  cases environment.lexicon.aliasShorthand? part with
  | some shorthand => exact uniform_applyNumeric environment shorthand.1 shorthand.2 _
  | none =>
      cases environment.lexicon.propertyShorthand? part with
      | some shorthand => exact uniform_applyNumeric environment [shorthand.1] shorthand.2 _
      | none => exact uniform_applyProperty environment part _

theorem uniform_applySimple (kind : PartKind) (part : Text) (contribution : Contribution) :
    Uniform (effectOf (applySimple environment kind part) contribution) := by
  cases kind with
  | mediaQuery => exact uniform_confine (Query.media? part) contribution
  | containerQuery => exact uniform_confine (Query.container? part) contribution
  | keyframes =>
      exact (Keyframes.uniform_read? environment part).map fun keyframes =>
        { contribution with keyframes := keyframes.or contribution.keyframes }
  | fontFace =>
      exact (FontFace.uniform_read? environment part).map fun fontFace =>
        { contribution with fontFace := fontFace.or contribution.fontFace }
  | target =>
      exact Uniform.pure fun _ =>
        { contribution with
          selector :=
            Selector.ofTarget (part.drop Grammar.target.length) contribution.className }
  | customProperty => exact uniform_applyNamed environment _ part addCustomProperty _
  | rootValue => exact uniform_applyNamed environment _ part Contribution.declareRoot _
  | template => exact Uniform.pure fun _ => contribution
  | declaration => exact uniform_applyDeclaration environment part contribution

end ClassName

end AtomicCss
