import AtomicCss.Proofs.ClassName.RootOrder
import AtomicCss.Proofs.OrderedMap
import AtomicCss.Proofs.Value.Blank

/-!
Contract: names of properties and root values whose value has nothing written in it.

Owns:
- what separators after a property, a custom property or a root value come to;
- the empty token as the value of a property in a frame and in a font face;
- the declarations of frames and the root declarations of parts, which all have a value.

Does not own: how empty tokens are resolved.

## Why some blank values are declared

Parts ask whether the text of their value is empty, not whether anything was written.  Two
empty tokens are a space apart, so their text is not empty.  A frame asks the same of a single
value.  Font faces, and root values that are named inside a value, do not ask at all.
-/

namespace AtomicCss

namespace ClassName

variable {environment : Environment}

/-- A name with a number of separators after it. -/
def trailed (name : Text) (count : Nat) : Text :=
  name ++ List.replicate count Grammar.valueSeparator

/-! ## Parts with a value -/

section Parts

variable (words : environment.lexicon.markers.Words)

include words

theorem applyProperty_trailed
    {property : Text}
    (single : Grammar.valueSeparator ∉ property)
    (count : Nat)
    (written : trailed property count ≠ [])
    (progress : Progress) :
    applyProperty environment (trailed property count) progress =
      if count ≤ 1 then
        progress
      else
        progress.update fun contribution =>
          contribution.declare
            ((environment.lexicon.propertiesOf property).map fun name =>
              declaration name (List.replicate (count - 1) ' ')) := by
  have tokens : Cursor.ofText Grammar.valueSeparator (trailed property count) =
      ⟨0, property :: List.replicate count []⟩ := by
    rw [Cursor.ofText, trailed, Cursor.tokens_append_replicate written single]
    rfl
  have value := environment.resolveStream_replicate words 1 count progress.state
  unfold applyProperty
  rw [tokens]
  simp only [Cursor.next?, Nat.zero_add, value, List.replicate_eq_nil_iff,
    Nat.sub_eq_zero_iff_le]
  split <;> rfl

theorem applyNamed_trailed
    {marker name : Text}
    (single : Grammar.valueSeparator ∉ marker ++ name)
    (count : Nat)
    (add : Contribution → Text → Text → Contribution)
    (progress : Progress) :
    applyNamed environment marker (trailed (marker ++ name) count) add progress =
      if name = [] ∨ count ≤ 1 then
        progress
      else
        progress.update fun contribution =>
          add contribution name (List.replicate (count - 1) ' ') := by
  have named : nameAfter marker (trailed (marker ++ name) count) = name := by
    rw [nameAfter, trailed, Text.before_append_replicate single, List.drop_left]
  have given : Text.beyond Grammar.valueSeparator (trailed (marker ++ name) count) =
      List.replicate (count - 1) Grammar.valueSeparator :=
    Text.beyond_append_replicate single count
  have value := environment.resolveText_replicate words (count - 1) progress.state
  simp only [applyNamed, named, given, value, List.replicate_eq_nil_iff,
    Nat.sub_eq_zero_iff_le]

/-- Separators after a property: with more than one of them the property is declared. -/
theorem applyPart_property
    {property : Text}
    {count : Nat}
    (single : Grammar.valueSeparator ∉ property)
    (form : formOf environment.lexicon (trailed property count) = .simple .declaration)
    (plain :
      count = 0 →
        environment.lexicon.aliasShorthand? property = none ∧
          environment.lexicon.propertyShorthand? property = none)
    (levels : Nat)
    (progress : Progress) :
    applyPart environment levels (trailed property count) progress =
      if count ≤ 1 then
        progress
      else
        progress.update fun contribution =>
          contribution.declare
            ((environment.lexicon.propertiesOf property).map fun name =>
              declaration name (List.replicate (count - 1) ' ')) := by
  have written : trailed property count ≠ [] := by
    intro none
    rw [none] at form
    cases form
  have noShorthand : environment.lexicon.aliasShorthand? (trailed property count) = none ∧
      environment.lexicon.propertyShorthand? (trailed property count) = none := by
    cases count with
    | zero => simpa [trailed] using plain rfl
    | succ count =>
        have several : Grammar.valueSeparator ∈ trailed property (count + 1) := by
          simp [trailed]
        simp [Lexicon.aliasShorthand?, Lexicon.propertyShorthand?, Lexicon.longestNumeric?,
          several]
  rw [applyPart_eq, form]
  simp only [applySimple, applyDeclaration, noShorthand]
  exact applyProperty_trailed words single count written progress

/-- The kinds of parts with a name after their marker do the same with it. -/
theorem applyPart_named
    {kind : PartKind}
    {marker name : Text}
    {count : Nat}
    {add : Contribution → Text → Text → Contribution}
    (form : formOf environment.lexicon (trailed (marker ++ name) count) = .simple kind)
    (adds :
      ∀ (part : Text) (progress : Progress),
        applySimple environment kind part progress =
          applyNamed environment marker part add progress)
    (markerSingle : Grammar.valueSeparator ∉ marker)
    (single : Grammar.valueSeparator ∉ name)
    (levels : Nat)
    (progress : Progress) :
    applyPart environment levels (trailed (marker ++ name) count) progress =
      if name = [] ∨ count ≤ 1 then
        progress
      else
        progress.update fun contribution =>
          add contribution name (List.replicate (count - 1) ' ') := by
  have apart : Grammar.valueSeparator ∉ marker ++ name := by
    rw [List.mem_append, not_or]
    exact ⟨markerSingle, single⟩
  rw [applyPart_eq, form]
  show applySimple environment kind (trailed (marker ++ name) count) progress = _
  rw [adds]
  exact applyNamed_trailed words apart count add progress

theorem applyPart_customProperty
    {name : Text}
    (single : Grammar.valueSeparator ∉ name)
    (count levels : Nat)
    (progress : Progress) :
    applyPart environment levels (trailed (Grammar.customProperty ++ name) count) progress =
      if name = [] ∨ count ≤ 1 then
        progress
      else
        progress.update fun contribution =>
          addCustomProperty contribution name (List.replicate (count - 1) ' ') :=
  applyPart_named words (by rfl) (fun _ _ => rfl) (by decide) single levels progress

theorem applyPart_rootValue
    {name : Text}
    (single : Grammar.valueSeparator ∉ name)
    (count levels : Nat)
    (progress : Progress) :
    applyPart environment levels (trailed (Grammar.rootValue ++ name) count) progress =
      if name = [] ∨ count ≤ 1 then
        progress
      else
        progress.update fun contribution =>
          contribution.declareRoot name (List.replicate (count - 1) ' ') :=
  applyPart_named words (by rfl) (fun _ _ => rfl) (by decide) single levels progress

end Parts

/-! ## Root declarations of parts -/

/-- Every root declaration made so far has a name and a value. -/
def FilledRoots (contribution : Contribution) : Prop :=
  ∀ root ∈ contribution.rootRules, root.name ≠ [] ∧ root.value ≠ []

theorem filledRoots_applySimple
    {progress : Progress}
    (filled : FilledRoots progress.contribution)
    (kind : PartKind)
    (part : Text) :
    FilledRoots (applySimple environment kind part progress).contribution := by
  cases kind with
  | mediaQuery | containerQuery =>
      simp only [applySimple, confine]
      split <;> exact filled
  | keyframes | fontFace | target | template => exact filled
  | customProperty =>
      simp only [applySimple, applyNamed]
      split <;> exact filled
  | rootValue =>
      simp only [applySimple, applyNamed]
      split
      · exact filled
      · rename_i given
        rw [not_or] at given
        intro root member
        rcases List.mem_append.1 member with earlier | added
        · exact filled root earlier
        · obtain rfl := List.mem_singleton.1 added
          exact given
  | declaration =>
      simp only [applySimple, applyDeclaration, applyProperty]
      repeat' split
      all_goals exact filled

/-- By induction on the levels left: an inlined template makes the declarations of its parts. -/
theorem filledRoots_applyPart
    {progress : Progress}
    (filled : FilledRoots progress.contribution)
    (levels : Nat)
    (part : Text) :
    FilledRoots (applyPart environment levels part progress).contribution := by
  induction levels using Nat.strongRecOn generalizing part progress with
  | ind levels inductionHypothesis =>
      rw [applyPart_eq]
      cases formOf environment.lexicon part with
      | blank | unimportant => exact filled
      | simple kind => exact filledRoots_applySimple filled kind part
      | template use =>
          cases use with
          | unknown | declarations | value => exact filled
          | parts parts =>
              cases levels with
              | zero => exact filled
              | succ deeper =>
                  refine List.foldlRecOn
                    (motive := fun inner : Progress => FilledRoots inner.contribution)
                    parts _ filled ?_
                  intro inner innerFilled nested _
                  exact inductionHypothesis deeper (Nat.lt_succ_self deeper) innerFilled nested

/-- A root declaration of a class name has a name and a value unless it was recorded while a
value was resolved. -/
theorem filled_or_recorded
    {ceiling : Nat}
    {className : Text}
    {contribution : Contribution}
    (found : contribution? environment ceiling className = some contribution)
    {root : RootDeclaration}
    (member : root ∈ contribution.rootRules) :
    (root.name ≠ [] ∧ root.value ≠ []) ∨
      ∃ stage ∈ stages environment ceiling className, root ∈ stage.recorded className := by
  rw [rootRules_of_contribution? found] at member
  rcases List.mem_append.1 member with direct | recorded
  · obtain ⟨parts, cut, _⟩ := contribution?_eq_some found
    have made := (appendOnly_rootRules environment).view_progressOf ceiling cut
    have filled : FilledRoots (progressOf environment ceiling className parts).contribution := by
      refine List.foldlRecOn
        (motive := fun progress : Progress => FilledRoots progress.contribution) _ _ ?_ ?_
      · intro root none
        cases none
      · intro progress filled part _
        exact filledRoots_applyPart filled progress.state.levelsLeft part
    refine Or.inl (filled root ?_)
    rw [made]
    exact List.mem_append_right _ direct
  · exact Or.inr (List.mem_flatMap.1 recorded)

end ClassName

/-! ## Frames -/

namespace Keyframes

variable {environment : Environment} {names : List Text}

/-- A declaration gives a value that is not empty to a property that one of the names stands
for. -/
def Gives (environment : Environment) (names : List Text) (text : Text) : Prop :=
  ∃ name ∈ names, ∃ property ∈ environment.lexicon.propertiesOf name,
    ∃ value, text = ClassName.declaration property value ∧ value ≠ []

/-- All declarations in frames do. -/
def Filled (environment : Environment) (names : List Text)
    (frames : OrderedMap Text (List Text)) : Prop :=
  ∀ selector declarations, frames.get? selector = some declarations →
    ∀ text ∈ declarations, Gives environment names text

section Frames

variable {frames : OrderedMap Text (List Text)} (filled : Filled environment names frames)

include filled

theorem gives_of_mem_getD {selector text : Text} (member : text ∈ (frames.get? selector).getD []) :
    Gives environment names text := by
  cases found : frames.get? selector with
  | none =>
      rw [found] at member
      cases member
  | some declarations =>
      rw [found] at member
      exact filled selector declarations found text member

theorem filled_insert
    {selector : Text}
    {declarations : List Text}
    (gives : ∀ text ∈ declarations, Gives environment names text) :
    Filled environment names (frames.insert selector declarations) := by
  intro key bound found
  rw [OrderedMap.get?_insert] at found
  split at found
  · cases found
    exact gives
  · exact filled key bound found

theorem filled_declareIn
    {name : Text}
    (known : name ∈ names)
    (selector value : Text) :
    Filled environment names
      (declareIn frames selector (environment.lexicon.propertiesOf name) value) := by
  unfold declareIn
  split
  · exact filled
  · rename_i given
    refine filled_insert filled fun text member => ?_
    rcases List.mem_append.1 member with earlier | added
    · exact gives_of_mem_getD filled earlier
    · obtain ⟨property, own, rfl⟩ := List.mem_map.1 added
      exact ⟨name, known, property, own, value, rfl, given⟩

end Frames

theorem filled_framesOf
    {cursor : Cursor}
    {frames : OrderedMap Text (List Text)}
    (filled : Filled environment names frames)
    (known : ∀ token ∈ cursor.rest, token ∈ names)
    (current : Option Text)
    (state : Expansion) :
    Filled environment names (framesOf environment cursor frames current state).1 := by
  induction cursor, current using frames_induction environment.lexicon
    generalizing frames state with
  | nil position current =>
      rw [framesOf_nil]
      exact filled
  | selector position token rest current chosen kind inductionHypothesis =>
      rw [framesOf_selector environment frames current kind]
      exact inductionHypothesis (filled_insert filled fun text => gives_of_mem_getD filled)
        (fun other member => known other (List.mem_cons_of_mem _ member)) state
  | skip position token rest kind inductionHypothesis =>
      rw [framesOf_skip environment frames kind]
      exact inductionHypothesis filled
        (fun other member => known other (List.mem_cons_of_mem _ member)) state
  | property position token rest chosen kind inductionHypothesis =>
      rw [framesOf_property environment kind]
      cases read : environment.lexicon.consume? ⟨position + 1, rest⟩ with
      | none => exact filled
      | some consumed =>
          obtain ⟨taken, split⟩ := Lexicon.exists_taken_of_consume? read
          have left : ∀ other ∈ consumed.2.rest, other ∈ names := by
            intro other member
            have inside : other ∈ taken ++ consumed.2.rest := List.mem_append_right taken member
            rw [split] at inside
            exact known other (List.mem_cons_of_mem token inside)
          exact inductionHypothesis consumed.1 consumed.2 read
            (filled_declareIn filled (known token List.mem_cons_self) chosen _) left _

/-- No frame of an animation has a declaration without a value. -/
theorem filled_read?
    {part : Text}
    {state : Expansion}
    {keyframes : Keyframes}
    (found : (read? environment part state).1 = some keyframes) :
    ∀ frame ∈ keyframes.frames, ∀ text ∈ frame.2,
      Gives environment (Cursor.tokens Grammar.valueSeparator part) text := by
  simp only [read?] at found
  split at found
  · cases found
  · let cursor := ((Cursor.ofText Grammar.valueSeparator part).take 1).2
    have known : ∀ token ∈ cursor.rest, token ∈ Cursor.tokens Grammar.valueSeparator part :=
      fun token member => List.mem_of_mem_drop member
    have none : Filled environment (Cursor.tokens Grammar.valueSeparator part) .empty := by
      intro selector declarations bound
      cases bound
    have filled := filled_framesOf none known Option.none state
    cases found
    rintro ⟨selector, declarations⟩ member
    exact filled selector declarations (OrderedMap.get?_eq_some_iff.2 member)

/-- In a frame a property with an empty token for a value, or with no token at all, is passed
over. -/
theorem readFrames_empty
    (words : environment.lexicon.markers.Words)
    {token selector : Text}
    {draft : Draft}
    (ordinary : selectorOf? token = none)
    (inside : draft.current = some selector)
    (position : Nat)
    (rest : List Text) :
    readFrames environment ⟨position, token :: [] :: rest⟩ draft =
        readFrames environment ⟨position + 2, rest⟩ draft ∧
      readFrames environment ⟨position, [token]⟩ draft = draft := by
  have value := environment.consume?_empty words (position + 1) rest draft.state
  have none : environment.consume? ⟨position + 1, []⟩ draft.state = Option.none := rfl
  obtain ⟨frames, current, state⟩ := draft
  obtain rfl : current = some selector := inside
  constructor
  · rw [readFrames]
    simp only [ordinary]
    split
    · simp_all
    · rename_i consumed taken
      rw [value] at taken
      cases taken
      rfl
  · rw [readFrames]
    simp only [ordinary]
    split
    · rfl
    · simp_all

end Keyframes

/-! ## Font faces -/

/-- A font face declares a property with an empty token for a value; with no token at all it does
not. -/
theorem FontFace.readDescriptors_empty
    {environment : Environment}
    (words : environment.lexicon.markers.Words)
    (token : Text)
    (draft : Draft)
    (position : Nat)
    (rest : List Text) :
    readDescriptors environment ⟨position, token :: [] :: rest⟩ draft =
        readDescriptors environment ⟨position + 2, rest⟩
          { draft with
            descriptors :=
              draft.descriptors ++ (environment.lexicon.propertiesOf token).map fun property =>
                ClassName.declaration property [] } ∧
      readDescriptors environment ⟨position, [token]⟩ draft = draft := by
  have value := environment.consume?_empty words (position + 1) rest draft.state
  have none : environment.consume? ⟨position + 1, []⟩ draft.state = Option.none := rfl
  constructor
  · rw [readDescriptors]
    split
    · simp_all
    · rename_i consumed taken
      rw [value] at taken
      cases taken
      rfl
  · rw [readDescriptors]
    split
    · rfl
    · simp_all

/-! ## All values together -/

namespace ClassName

/-- What becomes of names whose value has no token or only empty ones. -/
structure BlankValues (environment : Environment) : Prop where
  /-- Separators after a property leave it without a value up to the first one.  With more of
  them the property is declared with the spaces between the empty tokens. -/
  property :
    ∀ {property : Text} {count : Nat},
      Grammar.valueSeparator ∉ property →
      formOf environment.lexicon (trailed property count) = .simple .declaration →
      (count = 0 →
        environment.lexicon.aliasShorthand? property = none ∧
          environment.lexicon.propertyShorthand? property = none) →
      ∀ (levels : Nat) (progress : Progress),
        applyPart environment levels (trailed property count) progress =
          if count ≤ 1 then
            progress
          else
            progress.update fun contribution =>
              contribution.declare
                ((environment.lexicon.propertiesOf property).map fun name =>
                  declaration name (List.replicate (count - 1) ' '))
  /-- The same goes for custom properties, unless they have no name. -/
  customProperty :
    ∀ {name : Text}, Grammar.valueSeparator ∉ name →
      ∀ (count levels : Nat) (progress : Progress),
        applyPart environment levels (trailed (Grammar.customProperty ++ name) count) progress =
          if name = [] ∨ count ≤ 1 then
            progress
          else
            progress.update fun contribution =>
              addCustomProperty contribution name (List.replicate (count - 1) ' ')
  /-- The same goes for the root values of parts. -/
  rootValue :
    ∀ {name : Text}, Grammar.valueSeparator ∉ name →
      ∀ (count levels : Nat) (progress : Progress),
        applyPart environment levels (trailed (Grammar.rootValue ++ name) count) progress =
          if name = [] ∨ count ≤ 1 then
            progress
          else
            progress.update fun contribution =>
              contribution.declareRoot name (List.replicate (count - 1) ' ')
  /-- A root value inside a value is recorded with the token that follows it, whatever the name
  and the token are, and is not recorded when there is none. -/
  recorded :
    ∀ {marker name : Text},
      environment.lexicon.markers.markerAt? none (marker ++ name) = some (marker, .rootValue) →
      Grammar.valueSeparator ∉ name →
      ∀ (position : Nat) (state : Expansion),
        (∀ (value : Text) (rest : List Text),
          let resolved := environment.resolveText value state
          environment.consume? ⟨position, (marker ++ name) :: value :: rest⟩ state =
            some
              ⟨Lexicon.reference name, ⟨position + 2, rest⟩,
                resolved.2.record name resolved.1⟩) ∧
        environment.resolveText [] state = ([], state) ∧
        (position + 2 < wordLimit →
          environment.consume? ⟨position, [marker ++ name]⟩ state =
            some ⟨Lexicon.reference name, ⟨position + 1, []⟩, state⟩)
  /-- A property in a frame is passed over when its value is an empty token or missing. -/
  frame :
    ∀ {token selector : Text} {draft : Keyframes.Draft},
      Keyframes.selectorOf? token = none →
      draft.current = some selector →
      ∀ (position : Nat) (rest : List Text),
        Keyframes.readFrames environment ⟨position, token :: [] :: rest⟩ draft =
            Keyframes.readFrames environment ⟨position + 2, rest⟩ draft ∧
          Keyframes.readFrames environment ⟨position, [token]⟩ draft = draft
  /-- So every declaration of an animation has a value. -/
  animation :
    ∀ {part : Text} {state : Expansion} {keyframes : Keyframes},
      (Keyframes.read? environment part state).1 = some keyframes →
      ∀ frame ∈ keyframes.frames, ∀ text ∈ frame.2,
        Keyframes.Gives environment (Cursor.tokens Grammar.valueSeparator part) text
  /-- A property in a font face is declared when its value is an empty token, and passed over
  when it is missing. -/
  fontFace :
    ∀ (token : Text) (draft : FontFace.Draft) (position : Nat) (rest : List Text),
      FontFace.readDescriptors environment ⟨position, token :: [] :: rest⟩ draft =
          FontFace.readDescriptors environment ⟨position + 2, rest⟩
            { draft with
              descriptors :=
                draft.descriptors ++
                  (environment.lexicon.propertiesOf token).map fun property =>
                    declaration property [] } ∧
        FontFace.readDescriptors environment ⟨position, [token]⟩ draft = draft
  /-- A root declaration of a class name lacks a name or a value only if it was recorded inside
  a value. -/
  roots :
    ∀ {ceiling : Nat} {className : Text} {contribution : Contribution},
      contribution? environment ceiling className = some contribution →
      ∀ root ∈ contribution.rootRules,
        (root.name ≠ [] ∧ root.value ≠ []) ∨
          ∃ stage ∈ stages environment ceiling className, root ∈ stage.recorded className

theorem blankValues
    (environment : Environment)
    (words : environment.lexicon.markers.Words) :
    BlankValues environment where
  property := applyPart_property words
  customProperty := applyPart_customProperty words
  rootValue := applyPart_rootValue words
  recorded := fun marked single position state =>
    ⟨fun value rest =>
        environment.consume?_rootValue words marked single value position rest state,
      environment.resolveText_replicate words 0 state,
      fun small => environment.consume?_loneRootValue words marked single small state⟩
  frame := Keyframes.readFrames_empty words
  animation := Keyframes.filled_read?
  fontFace := FontFace.readDescriptors_empty words
  roots := fun found _ member => filled_or_recorded found member

/-- One separator after a property adds nothing. -/
theorem blankValues_palette :
    applyPart palette 10 (trailed "c".toList 1) Palette.start = Palette.start :=
  (blankValues palette (by decide)).property (by decide) (by rfl) (by decide) 10 Palette.start

/-- Two do. -/
theorem blank_declared :
    (contribution? palette 10 "cssf--c__".toList).map Contribution.declarations =
      some ["c:  ".toList] := by
  have words : palette.lexicon.markers.Words := by decide
  have cut : partsOf "cssf--c__".toList = .ok [trailed "c".toList 2] := by rfl
  have form : formOf palette.lexicon (trailed "c".toList 2) = .simple .declaration := by rfl
  have added (levels : Nat) (progress : Progress) :
      applyPart palette levels (trailed "c".toList 2) progress =
        progress.update fun contribution => contribution.declare ["c:  ".toList] :=
    applyPart_property words (by decide) form (by decide) levels progress
  rw [contribution?_of_partsOf cut, progressOf_of_not_mem (by decide)]
  simp only [applyParts, List.foldl_cons, List.foldl_nil, added]
  rfl

end ClassName

end AtomicCss
