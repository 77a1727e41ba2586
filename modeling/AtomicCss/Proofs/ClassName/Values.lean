import AtomicCss.Proofs.ClassName.Stages
import AtomicCss.Proofs.ClassName.Shorthand
import AtomicCss.Proofs.Value.Calls

/-!
Contract: the values that a part of a class name is read to.

Owns:
- the values in the frames of an animation and in the descriptors of a font face;
- the values of a part that does not stand for others, and parts with one value;
- that such a part changes the state as its values do, one after the other.

Does not own: what is declared with the values.
-/

namespace AtomicCss

open Value

/-! ## Animations -/

namespace Keyframes

/-- The values that stand in the frames of a stream, where `inside` tells whether a frame has
begun. -/
def valuesFrom (lexicon : Lexicon) (inside : Bool) : Cursor → List Value
  | ⟨_, []⟩ => []
  | ⟨position, token :: rest⟩ =>
      match selectorOf? token, inside with
      | some _, _ => valuesFrom lexicon true ⟨position + 1, rest⟩
      | none, false => valuesFrom lexicon false ⟨position + 1, rest⟩
      | none, true =>
          match _read : lexicon.consume? ⟨position + 1, rest⟩ with
          | none => []
          | some (chunk, remaining) =>
              lexicon.readChunk chunk :: valuesFrom lexicon true remaining
termination_by cursor => cursor.rest.length
decreasing_by
  · simp
  · simp
  · exact Nat.lt_succ_of_lt (Lexicon.length_rest_of_consume? _read)

section Values

variable {lexicon : Lexicon} {position : Nat} {token : Text} {rest : List Text}

theorem valuesFrom_selector
    {selector : Text}
    (inside : Bool)
    (kind : selectorOf? token = some selector) :
    valuesFrom lexicon inside ⟨position, token :: rest⟩ =
      valuesFrom lexicon true ⟨position + 1, rest⟩ := by
  rw [valuesFrom.eq_def]
  simp only [kind]

theorem valuesFrom_skip (kind : selectorOf? token = none) :
    valuesFrom lexicon false ⟨position, token :: rest⟩ =
      valuesFrom lexicon false ⟨position + 1, rest⟩ := by
  rw [valuesFrom.eq_def]
  simp only [kind]

theorem valuesFrom_property (kind : selectorOf? token = none) :
    valuesFrom lexicon true ⟨position, token :: rest⟩ =
      match lexicon.consume? ⟨position + 1, rest⟩ with
      | none => []
      | some (chunk, remaining) =>
          lexicon.readChunk chunk :: valuesFrom lexicon true remaining := by
  rw [valuesFrom.eq_def]
  simp only [kind]
  split <;> simp_all

end Values

/-- The values in the animation of a part. -/
def valuesOf (lexicon : Lexicon) (part : Text) : List Value :=
  if nameOf part = [] then
    []
  else
    valuesFrom lexicon false ((Cursor.ofText Grammar.valueSeparator part).take 1).2

variable (environment : Environment)

/-- By induction along the stream, in which the same tokens are values for both. -/
theorem state_framesOf
    (cursor : Cursor)
    (frames : OrderedMap Text (List Text))
    (current : Option Text)
    (state : Expansion) :
    (framesOf environment cursor frames current state).2 =
      (evalAll environment.ambient
        (valuesFrom environment.lexicon current.isSome cursor) state).2 := by
  induction cursor, current using frames_induction environment.lexicon
    generalizing frames state with
  | nil position current =>
      rw [framesOf_nil, valuesFrom]
      rfl
  | selector position token rest current chosen kind inductionHypothesis =>
      rw [framesOf_selector environment frames current kind, valuesFrom_selector _ kind]
      exact inductionHypothesis _ _
  | skip position token rest kind inductionHypothesis =>
      rw [framesOf_skip environment frames kind, Option.isSome_none, valuesFrom_skip kind]
      exact inductionHypothesis _ _
  | property position token rest chosen kind inductionHypothesis =>
      rw [framesOf_property environment kind, Option.isSome_some, valuesFrom_property kind]
      cases read : environment.lexicon.consume? ⟨position + 1, rest⟩ with
      | none => rfl
      | some consumed => exact inductionHypothesis consumed.1 consumed.2 read _ _

theorem state_read? (part : Text) (state : Expansion) :
    (read? environment part state).2 =
      (evalAll environment.ambient (valuesOf environment.lexicon part) state).2 := by
  unfold read? valuesOf
  by_cases unnamed : nameOf part = []
  · simp only [if_pos unnamed]
    rfl
  · simp only [if_neg unnamed]
    exact state_framesOf environment _ .empty none state

end Keyframes

/-! ## Font faces -/

namespace FontFace

/-- The values that describe a font face in a stream. -/
def valuesFrom (lexicon : Lexicon) : Cursor → List Value
  | ⟨_, []⟩ => []
  | ⟨position, _ :: rest⟩ =>
      match _read : lexicon.consume? ⟨position + 1, rest⟩ with
      | none => []
      | some (chunk, remaining) => lexicon.readChunk chunk :: valuesFrom lexicon remaining
termination_by cursor => cursor.rest.length
decreasing_by exact Nat.lt_succ_of_lt (Lexicon.length_rest_of_consume? _read)

theorem valuesFrom_cons
    {lexicon : Lexicon}
    {position : Nat}
    {token : Text}
    {rest : List Text} :
    valuesFrom lexicon ⟨position, token :: rest⟩ =
      match lexicon.consume? ⟨position + 1, rest⟩ with
      | none => []
      | some (chunk, remaining) => lexicon.readChunk chunk :: valuesFrom lexicon remaining := by
  rw [valuesFrom.eq_def]
  dsimp only
  split <;> simp_all

/-- The values in the font face of a part. -/
def valuesOf (lexicon : Lexicon) (part : Text) : List Value :=
  if familyOf part = [] then
    []
  else
    valuesFrom lexicon ((Cursor.ofText Grammar.valueSeparator part).take 1).2

variable (environment : Environment)

theorem state_descriptorsOf
    (cursor : Cursor)
    (descriptors : List Text)
    (state : Expansion) :
    (descriptorsOf environment cursor descriptors state).2 =
      (evalAll environment.ambient (valuesFrom environment.lexicon cursor) state).2 := by
  induction cursor using descriptors_induction environment.lexicon
    generalizing descriptors state with
  | nil position =>
      rw [descriptorsOf_nil, valuesFrom]
      rfl
  | property position token rest inductionHypothesis =>
      rw [descriptorsOf_cons, valuesFrom_cons]
      cases read : environment.lexicon.consume? ⟨position + 1, rest⟩ with
      | none => rfl
      | some consumed => exact inductionHypothesis consumed.1 consumed.2 read _ _

theorem state_read? (part : Text) (state : Expansion) :
    (read? environment part state).2 =
      (evalAll environment.ambient (valuesOf environment.lexicon part) state).2 := by
  unfold read? valuesOf
  by_cases unnamed : familyOf part = []
  · simp only [if_pos unnamed]
    rfl
  · simp only [if_neg unnamed]
    exact state_descriptorsOf environment _ _ state

end FontFace

/-! ## Parts -/

namespace ClassName

/-- The values of a part that is no template. -/
def simpleValues (lexicon : Lexicon) (kind : PartKind) (part : Text) : List Value :=
  match kind with
  | .mediaQuery | .containerQuery | .target | .template => []
  | .keyframes => Keyframes.valuesOf lexicon part
  | .fontFace => FontFace.valuesOf lexicon part
  | .customProperty | .rootValue =>
      lexicon.readSequence (Text.beyond Grammar.valueSeparator part)
  | .declaration =>
      match lexicon.shorthand? part with
      | some shorthand => [lexicon.read false shorthand.2]
      | none =>
          ((Cursor.ofText Grammar.valueSeparator part).next?.map fun taken =>
            lexicon.readStream taken.2).getD []

/-- The values of a part that does not stand for others. -/
def valuesOf (lexicon : Lexicon) (part : Text) : List Value :=
  match formOf lexicon part with
  | .simple kind => simpleValues lexicon kind part
  | .template (.value _ arguments) => arguments.map (lexicon.read false)
  | .template _ | .blank | .unimportant => []

variable (environment : Environment) (part : Text) (progress : Progress)

theorem state_applyNamed
    (marker : Text)
    (add : Contribution → Text → Text → Contribution) :
    (applyNamed environment marker part add progress).state =
      (environment.resolveText (Text.beyond Grammar.valueSeparator part) progress.state).2 := by
  unfold applyNamed
  dsimp only
  split <;> rfl

theorem shorthand?_eq_none
    {lexicon : Lexicon}
    {part : Text}
    (plain : lexicon.shorthand? part = none) :
    lexicon.aliasShorthand? part = none ∧ lexicon.propertyShorthand? part = none := by
  rw [Lexicon.shorthand?, Option.or_eq_none_iff, Option.map_eq_none_iff] at plain
  exact plain

theorem state_applyDeclaration :
    (applyDeclaration environment part progress).state =
      (evalAll environment.ambient (simpleValues environment.lexicon .declaration part)
        progress.state).2 := by
  unfold simpleValues
  dsimp only
  cases shorthand : environment.lexicon.shorthand? part with
  | some found =>
      rw [applyDeclaration_of_shorthand shorthand]
      rfl
  | none =>
      obtain ⟨unabbreviated, incomplete⟩ := shorthand?_eq_none shorthand
      unfold applyDeclaration
      rw [unabbreviated, incomplete]
      dsimp only
      unfold applyProperty
      cases (Cursor.ofText Grammar.valueSeparator part).next? with
      | none => rfl
      | some taken =>
          dsimp only
          split <;> rfl

theorem state_applySimple (kind : PartKind) :
    (applySimple environment kind part progress).state =
      (evalAll environment.ambient (simpleValues environment.lexicon kind part)
        progress.state).2 := by
  cases kind with
  | mediaQuery | containerQuery =>
      simp only [applySimple, confine]
      split <;> rfl
  | target | template => rfl
  | keyframes => exact Keyframes.state_read? environment part progress.state
  | fontFace => exact FontFace.state_read? environment part progress.state
  | customProperty | rootValue => exact state_applyNamed environment part progress _ _
  | declaration => exact state_applyDeclaration environment part progress

/-- A part that does not stand for others changes the state as its values do. -/
theorem state_applyPart
    (single : inlined? environment.lexicon part = none)
    (levels : Nat) :
    (applyPart environment levels part progress).state =
      (evalAll environment.ambient (valuesOf environment.lexicon part) progress.state).2 := by
  rw [applyPart_eq, valuesOf]
  cases form : formOf environment.lexicon part with
  | blank | unimportant => rfl
  | simple kind => exact state_applySimple environment part progress kind
  | template use =>
      cases use with
      | unknown | declarations => rfl
      | value template arguments =>
          have same := environment.resolveEach_eq arguments progress.state
          exact congrArg Prod.snd same
      | parts parts => simp [inlined?, form] at single

/-- A part whose tokens are one chunk has one value. -/
theorem valuesOf_of_single
    {lexicon : Lexicon}
    {part : Text}
    {cursor remaining : Cursor}
    {chunk : Chunk}
    (first : lexicon.nextChunk? cursor = some (chunk, remaining))
    (done : remaining.rest = [])
    (reads : valuesOf lexicon part = (lexicon.chunks cursor).map lexicon.readChunk) :
    valuesOf lexicon part = [lexicon.readChunk chunk] := by
  rw [reads, Lexicon.chunks_of_single first done]
  rfl

end ClassName

end AtomicCss
