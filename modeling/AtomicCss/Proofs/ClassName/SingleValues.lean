import AtomicCss.Proofs.ClassName.Values
import AtomicCss.Proofs.Value.Reading

/-!
Contract: a property with a single value in a part of its own, in a frame of an animation and in
a font face.

Owns:
- texts that are read as one value, from the first places of a stream;
- parts that are a property and such a text;
- what the three readers declare, and when they agree.

Does not own: how a value is resolved.

## Where the readers differ

A part of its own reads its value as a stream.  There a glue token stands for the character that
it names.  A frame and a font face take the tokens of one value, and a glue token is taken as any
other token is.
-/

namespace AtomicCss

open Expansion

/-! ## Single values -/

/-- A text is read as one value, and what it asks for can be counted from the fourth place of a
stream. -/
structure Lexicon.Single (lexicon : Lexicon) (text : Text) : Prop where
  chunk : ∃ chunk, lexicon.chunksOf text = [chunk]
  counted :
    ∀ taken ∈ lexicon.consume? ⟨3, Cursor.tokens Grammar.valueSeparator text⟩,
      taken.1.kind ≠ .outOfRange

/-- A text starts with glue when its first token does. -/
theorem Text.startsWith_glue_iff
    {text token : Text}
    {rest : List Text}
    (tokens : Text.split Grammar.valueSeparator text = token :: rest) :
    Text.startsWith Grammar.glue text = true ↔ Text.startsWith Grammar.glue token = true := by
  have joined := Text.join_split Grammar.valueSeparator text
  rw [tokens] at joined
  rw [Text.startsWith_iff_prefix, Text.startsWith_iff_prefix, ← joined]
  cases rest with
  | nil => simp [Text.join]
  | cons next others =>
      rw [Text.join_cons token (List.cons_ne_nil next others)]
      exact Text.prefix_append_cons_iff (by decide) token _

theorem Lexicon.eq_nil_of_chunks
    {lexicon : Lexicon}
    {position : Nat}
    {tokens : List Text}
    (none : lexicon.chunks ⟨position, tokens⟩ = []) :
    tokens = [] := by
  cases tokens with
  | nil => rfl
  | cons token rest => exact absurd none (chunks_ne_nil position (List.cons_ne_nil token rest))

namespace Lexicon.Single

variable {lexicon : Lexicon} {text : Text} (single : lexicon.Single text)

include single

theorem written : text ≠ [] := by
  rintro rfl
  obtain ⟨chunk, chunks⟩ := single.chunk
  have none : lexicon.chunksOf [] = [] := chunks_nil 0
  rw [none] at chunks
  cases chunks

theorem tokens_eq :
    Cursor.tokens Grammar.valueSeparator text = Text.split Grammar.valueSeparator text := by
  rw [Cursor.tokens, if_neg single.written]

/-- From the first places on, the one value takes all tokens of the text. -/
theorem consume?_eq
    {position : Nat}
    (early : position ≤ 3) :
    lexicon.consume? ⟨position, Text.split Grammar.valueSeparator text⟩ =
      some (⟨.value, text⟩,
        ⟨position + (Text.split Grammar.valueSeparator text).length, []⟩) := by
  obtain ⟨chunk, chunks⟩ := single.chunk
  have counted := single.counted
  have joined := Text.join_split Grammar.valueSeparator text
  rw [Lexicon.chunksOf, Cursor.ofText, Cursor.ofTokens, single.tokens_eq] at chunks
  rw [single.tokens_eq] at counted
  cases tokens : Text.split Grammar.valueSeparator text with
  | nil => exact absurd tokens (Text.split_ne_nil _ _)
  | cons token rest =>
      rw [tokens] at chunks counted joined
      let count := lexicon.span token (Cursor.ofTokens rest)
      -- A count that can be addressed in a frame can be addressed at every place before it.
      have room : Cursor.Addressable ⟨position + 1, rest⟩ count := by
        rw [consume?_cons] at counted
        have late : Cursor.Addressable ⟨3 + 1, rest⟩ count := by
          by_cases word : Cursor.Addressable ⟨3 + 1, rest⟩ count
          · exact word
          · simp [count, word] at counted
        exact late.of_le (Nat.add_le_add_right early 1)
      have all : rest.length ≤ count := by
        cases marked : Text.after? Grammar.glue token with
        | some name =>
            rw [chunks_of_glue marked, List.cons_eq_cons] at chunks
            rw [eq_nil_of_chunks chunks.2]
            exact Nat.zero_le count
        | none =>
            rw [chunks_of_value marked, List.cons_eq_cons] at chunks
            exact List.drop_eq_nil_iff.1 (eq_nil_of_chunks chunks.2)
      rw [consume?_cons, if_pos room, List.take_of_length_le all, joined,
        List.drop_eq_nil_of_le all, Nat.min_eq_right all, List.length_cons]
      congr 3
      omega

/-- A value that is not glue is the first of its stream, and nothing follows it. -/
theorem nextChunk?_of_plain
    (plain : Text.after? Grammar.glue text = none)
    {position : Nat}
    (early : position ≤ 3) :
    lexicon.nextChunk? ⟨position, Text.split Grammar.valueSeparator text⟩ =
      some (⟨.value, text⟩,
        ⟨position + (Text.split Grammar.valueSeparator text).length, []⟩) := by
  rw [← single.consume?_eq early]
  cases tokens : Text.split Grammar.valueSeparator text with
  | nil => exact absurd tokens (Text.split_ne_nil _ _)
  | cons token rest =>
      have unmarked : Text.after? Grammar.glue token = none := by
        have iff := Text.startsWith_glue_iff tokens
        rw [Text.startsWith, Text.startsWith, plain] at iff
        simpa using iff
      simp [nextChunk?, Cursor.peek?, unmarked]

/-- Glue is a token for itself. -/
theorem chunks_of_glue
    {name : Text}
    (marked : Text.after? Grammar.glue text = some name)
    (position : Nat) :
    lexicon.chunks ⟨position, Text.split Grammar.valueSeparator text⟩ = [⟨.glue, name⟩] := by
  obtain ⟨chunk, chunks⟩ := single.chunk
  rw [Lexicon.chunksOf, Cursor.ofText, Cursor.ofTokens, single.tokens_eq] at chunks
  have joined := Text.join_split Grammar.valueSeparator text
  cases tokens : Text.split Grammar.valueSeparator text with
  | nil => exact absurd tokens (Text.split_ne_nil _ _)
  | cons token rest =>
      have starts : (Text.after? Grammar.glue token).isSome = true := by
        refine (Text.startsWith_glue_iff tokens).1 ?_
        rw [Text.startsWith, marked]
        rfl
      obtain ⟨tokenName, tokenMarked⟩ := Option.isSome_iff_exists.1 starts
      rw [tokens] at chunks joined
      rw [Lexicon.chunks_of_glue tokenMarked, List.cons_eq_cons] at chunks
      obtain rfl := eq_nil_of_chunks chunks.2
      obtain rfl : token = text := by simpa [Text.join] using joined
      rw [Lexicon.chunks_of_glue marked, chunks_nil]

end Lexicon.Single

/-! ## Resolved values -/

namespace Environment

variable {environment : Environment} {value : Text}

/-- A value that is not glue is resolved as its tokens are, from each of the first places. -/
theorem resolveStream_of_plain
    (single : environment.lexicon.Single value)
    (plain : Text.after? Grammar.glue value = none)
    {position : Nat}
    (early : position ≤ 3)
    (state : Expansion) :
    environment.resolveStream ⟨position, Text.split Grammar.valueSeparator value⟩ state =
      environment.resolve value state :=
  resolveStream_of_single (single.nextChunk?_of_plain plain early) rfl state

/-- Glue is resolved to its character, from everywhere. -/
theorem resolveStream_of_glue
    (single : environment.lexicon.Single value)
    {name : Text}
    (marked : Text.after? Grammar.glue value = some name)
    (position : Nat)
    (state : Expansion) :
    environment.resolveStream ⟨position, Text.split Grammar.valueSeparator value⟩ state =
      (environment.lexicon.characterFor name, state) := by
  rw [resolveStream, Lexicon.readStream, single.chunks_of_glue marked]
  show (Piece.stream [⟨environment.lexicon.characterFor name, true⟩], state) = _
  simp [Piece.stream, Piece.words]

theorem resolveText_of_written
    (written : value ≠ [])
    (state : Expansion) :
    environment.resolveText value state =
      environment.resolveStream ⟨0, Text.split Grammar.valueSeparator value⟩ state := by
  rw [resolveText, Cursor.ofText, Cursor.ofTokens, Cursor.tokens, if_neg written]

theorem resolveText_of_plain
    (single : environment.lexicon.Single value)
    (plain : Text.after? Grammar.glue value = none)
    (state : Expansion) :
    environment.resolveText value state = environment.resolve value state :=
  (environment.resolveText_of_written single.written state).trans
    (resolveStream_of_plain single plain (Nat.zero_le 3) state)

theorem resolveText_of_glue
    (single : environment.lexicon.Single value)
    {name : Text}
    (marked : Text.after? Grammar.glue value = some name)
    (state : Expansion) :
    environment.resolveText value state = (environment.lexicon.characterFor name, state) :=
  (environment.resolveText_of_written single.written state).trans
    (resolveStream_of_glue single marked 0 state)

/-- A single value is the same from each of the first places. -/
theorem resolveStream_of_early
    (single : environment.lexicon.Single value)
    {position : Nat}
    (early : position ≤ 3)
    (state : Expansion) :
    environment.resolveStream ⟨position, Text.split Grammar.valueSeparator value⟩ state =
      environment.resolveText value state := by
  cases marked : Text.after? Grammar.glue value with
  | none => rw [resolveStream_of_plain single marked early, resolveText_of_plain single marked]
  | some name => rw [resolveStream_of_glue single marked, resolveText_of_glue single marked]

/-- Under the default markers a glue token that is taken as any other token stands for itself. -/
theorem resolve_of_glue
    (default : environment.lexicon.markers = Registry.standard)
    {name : Text}
    (marked : Text.after? Grammar.glue value = some name)
    (state : Expansion) :
    environment.resolve value state = (value, state) := by
  obtain rfl := Text.after?_eq_some_iff.1 marked
  have unmarked : environment.lexicon.markers.markerAt? none (Grammar.glue ++ name) = none := by
    rw [default]
    rfl
  have plain : Units.convert (Grammar.glue ++ name) = Grammar.glue ++ name := by rfl
  have written : Grammar.glue ++ name ≠ [] := List.append_ne_nil_of_left_ne_nil (by decide) name
  rw [resolve_of_unmarked written unmarked, plain]

end Environment

/-! ## Parts -/

namespace ClassName

/-- A property and a value. -/
def pairText (property value : Text) : Text :=
  property ++ Grammar.valueSeparator :: value

/-- An animation with the property and the value in its first frame. -/
def framePart (name property value : Text) : Text :=
  pairText (Grammar.keyframes ++ name) (pairText "from".toList (pairText property value))

/-- A font face that the property and the value describe. -/
def facePart (family property value : Text) : Text :=
  pairText (Grammar.fontFace ++ family) (pairText property value)

theorem split_pairText
    {property : Text}
    (whole : Grammar.valueSeparator ∉ property)
    (value : Text) :
    Text.split Grammar.valueSeparator (pairText property value) =
      property :: Text.split Grammar.valueSeparator value := by
  rw [pairText, Text.split_append_cons, Text.split_of_not_mem whole]
  rfl

/-- What follows the first token of a part. -/
theorem take_pairText
    {first : Text}
    (whole : Grammar.valueSeparator ∉ first)
    (rest : Text) :
    ((Cursor.ofText Grammar.valueSeparator (pairText first rest)).take 1).2 =
      ⟨1, Text.split Grammar.valueSeparator rest⟩ := by
  have filled : pairText first rest ≠ [] := by simp [pairText]
  have enough : 1 ≤ (first :: Text.split Grammar.valueSeparator rest).length :=
    Nat.succ_le_succ (Nat.zero_le _)
  rw [Cursor.ofText, Cursor.ofTokens, Cursor.tokens, if_neg filled, split_pairText whole]
  simp only [Cursor.take, Nat.min_eq_left enough, List.drop_one, List.tail_cons]

theorem marked_whole
    {marker name : Text}
    (markerWhole : Grammar.valueSeparator ∉ marker)
    (nameWhole : Grammar.valueSeparator ∉ name) :
    Grammar.valueSeparator ∉ marker ++ name := by
  rw [List.mem_append, not_or]
  exact ⟨markerWhole, nameWhole⟩

section Single

variable {environment : Environment} {property value : Text}
  (whole : Grammar.valueSeparator ∉ property)
  (single : environment.lexicon.Single value)

include whole single

/-- A part of its own reads the value as a stream. -/
theorem applyPart_pairText
    (kind : PartKind.classify (pairText property value) = .declaration)
    (contribution : Contribution)
    {state : Expansion}
    (written : (environment.resolveText value state).1 ≠ [])
    (levels : Nat) :
    let streamed := environment.resolveText value state
    applyPart environment levels (pairText property value) ⟨contribution, state⟩ =
      ⟨contribution.declare
          ((environment.lexicon.propertiesOf property).map fun property =>
            declaration property streamed.1),
        streamed.2⟩ := by
  have separated : Grammar.valueSeparator ∈ pairText property value := by simp [pairText]
  have filled : pairText property value ≠ [] := List.ne_nil_of_mem separated
  have other : pairText property value ≠ Grammar.unimportant := by
    intro same
    rw [same] at separated
    exact absurd separated (by decide)
  have form : formOf environment.lexicon (pairText property value) = .simple .declaration := by
    rw [formOf, if_neg filled, if_neg other, kind]
  -- No shorthand has a separator in it.
  have contains : (pairText property value).contains Grammar.valueSeparator = true := by
    simpa using separated
  have unabbreviated : environment.lexicon.aliasShorthand? (pairText property value) = none := by
    rw [Lexicon.aliasShorthand?, Lexicon.longestNumeric?, if_pos contains]
    rfl
  have incomplete : environment.lexicon.propertyShorthand? (pairText property value) = none := by
    rw [Lexicon.propertyShorthand?, Lexicon.longestNumeric?, if_pos contains]
    rfl
  have next : (Cursor.ofText Grammar.valueSeparator (pairText property value)).next? =
      some (property, ⟨1, Text.split Grammar.valueSeparator value⟩) := by
    rw [Cursor.ofText, Cursor.ofTokens, Cursor.tokens, if_neg filled, split_pairText whole]
    rfl
  have streamed := environment.resolveStream_of_early single (by decide : 1 ≤ 3) state
  rw [applyPart_eq, form]
  show applyDeclaration environment (pairText property value) ⟨contribution, state⟩ = _
  rw [applyDeclaration, unabbreviated, incomplete]
  show applyProperty environment (pairText property value) ⟨contribution, state⟩ = _
  simp only [applyProperty, next, streamed, if_neg written]

/-- A frame takes the tokens of the value. -/
theorem read?_framePart
    {name : Text}
    (named : name ≠ [])
    (nameWhole : Grammar.valueSeparator ∉ name)
    (ordinary : Keyframes.selectorOf? property = none)
    (state : Expansion) :
    let taken := environment.resolve value state
    Keyframes.read? environment (framePart name property value) state =
      (some ⟨name,
          [("from".toList,
            if taken.1 = [] then
              []
            else
              (environment.lexicon.propertiesOf property).map fun property =>
                declaration property taken.1)]⟩,
        taken.2) := by
  intro taken
  have firstWhole : Grammar.valueSeparator ∉ Grammar.keyframes ++ name :=
    marked_whole (by decide) nameWhole
  have nameOf : Keyframes.nameOf (framePart name property value) = name := by
    rw [Keyframes.nameOf, framePart, pairText, Text.before_append_cons firstWhole,
      Text.after?_append]
    rfl
  have cursor :
      ((Cursor.ofText Grammar.valueSeparator (framePart name property value)).take 1).2 =
        ⟨1, "from".toList :: property :: Text.split Grammar.valueSeparator value⟩ := by
    rw [framePart, take_pairText firstWhole, split_pairText (by decide), split_pairText whole]
  have frames :
      Keyframes.framesOf environment
          ⟨1, "from".toList :: property :: Text.split Grammar.valueSeparator value⟩ .empty none
          state =
        (Keyframes.declareIn (OrderedMap.empty.alter "from".toList fun declarations =>
            declarations.getD []) "from".toList (environment.lexicon.propertiesOf property) taken.1,
          taken.2) := by
    rw [Keyframes.framesOf_selector environment .empty none (by rfl),
      Keyframes.framesOf_property environment ordinary, single.consume?_eq (by decide)]
    exact congrFun (Keyframes.framesOf_nil environment _ _ _) _
  have read : Keyframes.read? environment (framePart name property value) state =
      let frames := Keyframes.framesOf environment
        ((Cursor.ofText Grammar.valueSeparator (framePart name property value)).take 1).2 .empty
        none state
      (some ⟨name, frames.1.entries⟩, frames.2) := by
    simp only [Keyframes.read?, nameOf, if_neg named]
    rfl
  rw [read, cursor, frames]
  dsimp only
  unfold Keyframes.declareIn
  split <;> rfl

/-- A font face takes them as well, and declares them even if the value is empty. -/
theorem read?_facePart
    {family : Text}
    (named : family ≠ [])
    (familyWhole : Grammar.valueSeparator ∉ family)
    (state : Expansion) :
    let taken := environment.resolve value state
    FontFace.read? environment (facePart family property value) state =
      (some (FontFace.write
          (("font-family: ".toList ++ Text.quoted family) ::
            (environment.lexicon.propertiesOf property).map fun property =>
              declaration property taken.1)),
        taken.2) := by
  intro taken
  have firstWhole : Grammar.valueSeparator ∉ Grammar.fontFace ++ family :=
    marked_whole (by decide) familyWhole
  have familyOf : FontFace.familyOf (facePart family property value) = family := by
    rw [FontFace.familyOf, facePart, pairText, Text.before_append_cons firstWhole,
      Text.after?_append]
    rfl
  have cursor :
      ((Cursor.ofText Grammar.valueSeparator (facePart family property value)).take 1).2 =
        ⟨1, property :: Text.split Grammar.valueSeparator value⟩ := by
    rw [facePart, take_pairText firstWhole, split_pairText whole]
  have descriptors (first : List Text) :
      FontFace.descriptorsOf environment
          ⟨1, property :: Text.split Grammar.valueSeparator value⟩ first state =
        (first ++ (environment.lexicon.propertiesOf property).map fun property =>
            declaration property taken.1,
          taken.2) := by
    rw [FontFace.descriptorsOf_cons, single.consume?_eq (by decide)]
    dsimp only
    rw [FontFace.descriptorsOf, FontFace.readDescriptors]
    rfl
  have read : FontFace.read? environment (facePart family property value) state =
      let descriptors := FontFace.descriptorsOf environment
        ((Cursor.ofText Grammar.valueSeparator (facePart family property value)).take 1).2
        ["font-family: ".toList ++ Text.quoted family] state
      (some (FontFace.write descriptors.1), descriptors.2) := by
    simp only [FontFace.read?, familyOf, if_neg named]
    rfl
  rw [read, cursor, descriptors]
  rfl

/-- A property with a single value that is not empty, in a part of its own, in the first frame of
an animation and in a font face.  The part declares the value as a stream, the frame and the font
face declare it as the tokens that it takes.  These are the same, and leave the same state with
the same root values, unless the value is glue.  Then the part declares the character, and under
the default markers the frame and the font face declare the token as it is written. -/
theorem singleValue_declared
    {name family : Text}
    (named : name ≠ [])
    (nameWhole : Grammar.valueSeparator ∉ name)
    (familyNamed : family ≠ [])
    (familyWhole : Grammar.valueSeparator ∉ family)
    (ordinary : Keyframes.selectorOf? property = none)
    (kind : PartKind.classify (pairText property value) = .declaration)
    (contribution : Contribution)
    (state : Expansion)
    (written : (environment.resolveText value state).1 ≠ []) :
    let streamed := environment.resolveText value state
    let taken := environment.resolve value state
    let declared (text : Text) : List Text :=
      (environment.lexicon.propertiesOf property).map fun property => declaration property text
    applyPart environment state.levelsLeft (pairText property value) ⟨contribution, state⟩ =
      ⟨contribution.declare (declared streamed.1), streamed.2⟩ ∧
    Keyframes.read? environment (framePart name property value) state =
      (some ⟨name, [("from".toList, if taken.1 = [] then [] else declared taken.1)]⟩,
        taken.2) ∧
    FontFace.read? environment (facePart family property value) state =
      (some (FontFace.write
          (("font-family: ".toList ++ Text.quoted family) :: declared taken.1)),
        taken.2) ∧
    (Text.after? Grammar.glue value = none → taken = streamed) ∧
    (∀ character, Text.after? Grammar.glue value = some character →
      streamed = (environment.lexicon.characterFor character, state) ∧
        (environment.lexicon.markers = Registry.standard → taken = (value, state))) := by
  intro streamed taken declared
  refine ⟨?_, ?_, ?_, ?_, ?_⟩
  · exact applyPart_pairText whole single kind contribution written state.levelsLeft
  · exact read?_framePart whole single named nameWhole ordinary state
  · exact read?_facePart whole single familyNamed familyWhole state
  · intro plain
    exact (environment.resolveText_of_plain single plain state).symm
  · intro character marked
    refine ⟨environment.resolveText_of_glue single marked state, ?_⟩
    intro default
    exact environment.resolve_of_glue default marked state

end Single

/-! ### A root value and a character -/

open Environment Environment.Ruled

theorem single_rootValue : ruled.lexicon.Single "rval-x_red".toList where
  chunk := ⟨⟨.value, "rval-x_red".toList⟩, Lexicon.chunks_of_single (by rfl) rfl⟩
  counted := by
    intro taken found
    have value : ruled.lexicon.consume?
        ⟨3, Cursor.tokens Grammar.valueSeparator "rval-x_red".toList⟩ =
          some (⟨.value, "rval-x_red".toList⟩, ⟨5, []⟩) := by rfl
    rw [value] at found
    obtain rfl := Option.some.inj found
    decide

theorem resolve_rootValue :
    ruled.resolve "rval-x_red".toList fresh =
      ("var(--x)".toList, fresh.record "x".toList "red".toList) := by
  rw [resolve, read_rootValue]
  rfl

/-- A root value is declared by all three and recorded by all three. -/
theorem singleValue_declared_rootValue :
    let root := fresh.record "x".toList "red".toList
    let start := Contribution.start "cssf--w".toList true
    applyPart ruled 15 "color_rval-x_red".toList ⟨start, fresh⟩ =
      ⟨start.declare ["color: var(--x)".toList], root⟩ ∧
    Keyframes.read? ruled "kf-k_from_color_rval-x_red".toList fresh =
      (some ⟨"k".toList, [("from".toList, ["color: var(--x)".toList])]⟩, root) := by
  intro root start
  have taken := resolve_rootValue
  have written : (ruled.resolveText "rval-x_red".toList fresh).1 ≠ [] := by
    rw [ruled.resolveText_of_plain single_rootValue (by rfl), taken]
    decide
  have declared := singleValue_declared (by decide : Grammar.valueSeparator ∉ "color".toList)
    single_rootValue (by decide : "k".toList ≠ []) (by decide) (by decide : "F".toList ≠ [])
    (by decide) (by rfl) (by rfl) start fresh written
  obtain ⟨own, frame, _, same, _⟩ := declared
  rw [← same (by rfl), taken] at own
  rw [taken] at frame
  exact ⟨own, frame⟩

theorem single_glue : ruled.lexicon.Single "chrsl-slash".toList where
  chunk := ⟨⟨.glue, "slash".toList⟩, Lexicon.chunks_of_single (by rfl) rfl⟩
  counted := by
    intro taken found
    have value : ruled.lexicon.consume?
        ⟨3, Cursor.tokens Grammar.valueSeparator "chrsl-slash".toList⟩ =
          some (⟨.value, "chrsl-slash".toList⟩, ⟨4, []⟩) := by rfl
    rw [value] at found
    obtain rfl := Option.some.inj found
    decide

/-- Glue is the character in a part of its own, and the token as it is written in a frame. -/
theorem singleValue_declared_glue :
    let start := Contribution.start "cssf--w".toList true
    ruled.resolveText "chrsl-slash".toList fresh = ("/".toList, fresh) ∧
    applyPart ruled 15 "color_chrsl-slash".toList ⟨start, fresh⟩ =
      ⟨start.declare ["color: /".toList], fresh⟩ ∧
    Keyframes.read? ruled "kf-k_from_color_chrsl-slash".toList fresh =
      (some ⟨"k".toList, [("from".toList, ["color: chrsl-slash".toList])]⟩, fresh) := by
  intro start
  have marked : Text.after? Grammar.glue "chrsl-slash".toList = some "slash".toList := by rfl
  have streamed : ruled.resolveText "chrsl-slash".toList fresh = ("/".toList, fresh) := by
    rw [ruled.resolveText_of_glue single_glue marked]
    rfl
  have taken : ruled.resolve "chrsl-slash".toList fresh = ("chrsl-slash".toList, fresh) :=
    resolve_of_glue (by rfl) marked fresh
  have whole : Grammar.valueSeparator ∉ "color".toList := by decide
  have own := applyPart_pairText whole single_glue (by rfl) start
    (by rw [streamed]; decide) 15
  have frame := read?_framePart whole single_glue (by decide : "k".toList ≠ []) (by decide)
    (by rfl) fresh
  rw [streamed] at own
  rw [taken] at frame
  exact ⟨streamed, own, frame⟩

end ClassName

end AtomicCss
