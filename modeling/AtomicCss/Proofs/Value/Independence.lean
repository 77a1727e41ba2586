import AtomicCss.Proofs.Expansion.Renaming
import AtomicCss.Proofs.Value.Calls
import AtomicCss.Proofs.Value.Induction

/-!
Contract: values that depend neither on the class name nor on the surroundings.

Owns:
- such values, and lists of them;
- lexicons that bind no marker to the kinds which read the class name or the surroundings, and
  the independence of all values read under them;
- from it, the same for tokens, for lists of tokens and for streams.

Does not own: parts of class names.
-/

namespace AtomicCss

open Expansion

namespace Value

/-- The text of the value and what it records are the same for every class name and in all
surroundings. -/
def Independent (value : Value) : Prop :=
  ∀ (name : Text) (ambient other : Ambient),
    SameButName name (value.eval ambient) (value.eval other)

variable {name : Text} {ambient other : Ambient}

theorem sameButName_evalAll
    {values : List Value}
    (independent : ∀ value ∈ values, value.Independent) :
    SameButName name (evalAll ambient values) (evalAll other values) := by
  have composable := SameButName.composable name
  induction values with
  | nil => exact composable.pure []
  | cons value others inductionHypothesis =>
      have first := independent value List.mem_cons_self name ambient other
      have later := inductionHypothesis fun value member =>
        independent value (List.mem_cons_of_mem _ member)
      let rest (surroundings : Ambient) (text : Text) (state : Expansion) :=
        let pieces := evalAll surroundings others state
        ((⟨text, value.isGlue⟩ : Piece) :: pieces.1, pieces.2)
      exact composable.bind (rest ambient) (rest other) first fun text =>
        composable.map later fun pieces => ⟨text, value.isGlue⟩ :: pieces

/-- A call depends on nothing when neither its arguments nor the values after them do. -/
theorem sameButName_call
    {arguments trailing : List Value}
    (inside : ∀ argument ∈ arguments, argument.Independent)
    (after : ∀ value ∈ trailing, value.Independent)
    (write : List Piece → List Piece → Text) :
    let resolve (surroundings : Ambient) (state : Expansion) :=
      let inside := evalAll surroundings arguments state
      let after := evalAll surroundings trailing inside.2
      (write inside.1 after.1, after.2)
    SameButName name (resolve ambient) (resolve other) := by
  have composable := SameButName.composable name
  let rest (surroundings : Ambient) (inside : List Piece) (state : Expansion) :=
    let after := evalAll surroundings trailing state
    (write inside after.1, after.2)
  exact composable.bind (rest ambient) (rest other) (sameButName_evalAll inside) fun inside =>
    composable.map (sameButName_evalAll after) (write inside)

end Value

/-! ## Lexicons -/

namespace Lexicon

/-- No marker reads the class name, and none calls a function that can read the surroundings. -/
def Detached (lexicon : Lexicon) : Prop :=
  MarkerKind.targetSelector ∉ lexicon.markers.bindings.values ∧
    MarkerKind.customFunction ∉ lexicon.markers.bindings.values

instance (lexicon : Lexicon) : Decidable lexicon.Detached :=
  inferInstanceAs (Decidable (_ ∧ _))

namespace Detached

variable {lexicon : Lexicon}

theorem hereditary (detached : lexicon.Detached) (size : Nat) :
    lexicon.Hereditary size Value.Independent where
  text := fun css name _ _ => (SameButName.composable name).pure css
  glue := fun character name _ _ => (SameButName.composable name).pure character
  target := fun bound => absurd bound detached.1
  quoted := by
    intro source inner independent name ambient other
    have content := (SameButName.composable name).map (independent name ambient other) Text.quoted
    exact SameButName.nested content source
  commaList := by
    intro items independent name ambient other
    exact (SameButName.composable name).map (Value.sameButName_evalAll independent)
      fun pieces => List.intercalate ", ".toList (pieces.map Piece.text)
  rootValue := by
    intro name stream independent className ambient other
    let reference (pieces : List Piece) (state : Expansion) :=
      ("var(--".toList ++ name ++ [')'], state.record name (Piece.stream pieces))
    exact (SameButName.composable className).bind reference reference
      (Value.sameButName_evalAll independent) fun pieces =>
        SameButName.record name (Piece.stream pieces) _
  template := by
    intro source blueprint arguments independent name ambient other
    have texts : SameButName name (Value.evalAll ambient arguments)
        (Value.evalAll other arguments) := Value.sameButName_evalAll independent
    have filled := (SameButName.composable name).map texts
      fun pieces => blueprint.substitute (pieces.map Piece.text)
    exact SameButName.nested filled source
  call := by
    intro source name arguments trailing inside after className ambient other
    exact SameButName.nested
      (Value.sameButName_call inside after fun inside after =>
        name ++ '(' :: Piece.callArguments inside ++ ')' :: Piece.trailing after)
      source
  computed := fun bound => absurd bound detached.2
  outOfRange := fun _ _ _ _ _ _ _ _ => SameButName.outOfRange []

/-- Under such a lexicon the value of no token depends on the class name or the surroundings. -/
theorem read (detached : lexicon.Detached) (quoted : Bool) (token : Text) :
    (lexicon.read quoted token).Independent :=
  (detached.hereditary (token.length + 1)).read quoted (Nat.lt_succ_self token.length)

theorem readChunk (detached : lexicon.Detached) (chunk : Chunk) :
    (lexicon.readChunk chunk).Independent := by
  have hereditary := detached.hereditary 0
  unfold Lexicon.readChunk
  split
  · exact hereditary.glue _
  · exact fun _ _ _ => SameButName.outOfRange []
  · exact detached.read false chunk.text

end Detached

end Lexicon

/-! ## Tokens -/

namespace Environment

variable {lexicon : Lexicon} (detached : lexicon.Detached) (name : Text) (ambient other : Ambient)

include detached

theorem sameButName_resolveStream (cursor : Cursor) :
    SameButName name (resolveStream ⟨lexicon, ambient⟩ cursor)
      (resolveStream ⟨lexicon, other⟩ cursor) := by
  have values := List.forall_mem_map.2 fun chunk (_ : chunk ∈ lexicon.chunks cursor) =>
    detached.readChunk chunk
  exact (SameButName.composable name).map (Value.sameButName_evalAll values) Piece.stream

theorem sameButName_resolveText (text : Text) :
    SameButName name (resolveText ⟨lexicon, ambient⟩ text) (resolveText ⟨lexicon, other⟩ text) :=
  sameButName_resolveStream detached name ambient other _

theorem sameButName_resolveEach (tokens : List Text) :
    SameButName name (resolveEach ⟨lexicon, ambient⟩ tokens)
      (resolveEach ⟨lexicon, other⟩ tokens) := by
  have values := List.forall_mem_map.2 fun token (_ : token ∈ tokens) =>
    detached.read false token
  rw [funext (resolveEach_eq ⟨lexicon, ambient⟩ tokens),
    funext (resolveEach_eq ⟨lexicon, other⟩ tokens)]
  exact (SameButName.composable name).map (Value.sameButName_evalAll values) (List.map Piece.text)

end Environment

end AtomicCss
