import AtomicCss.Lexicon.Basic

/-!
Contract: values as they are read from tokens, before anything is expanded.

Owns:
- the value type, one constructor for each way in which a value gets its text;
- resolved pieces and the two ways of putting them together.

Does not own: reading tokens, and the state that resolving a value changes.
-/

namespace AtomicCss

/-! ## Values -/

/-- A value read from a token.  Where a constructor holds a `source`, that is the
token itself, which stands for the value when it cannot be expanded. -/
inductive Value where
  /-- Text that needs no expansion. -/
  | text (css : Text)
  /-- A character that attaches to its neighbours. -/
  | glue (character : Text)
  /-- The selector of the class under the given instructions. -/
  | target (instructions : Text)
  | quoted (source : Text) (inner : Value)
  /-- Values separated by commas. -/
  | commaList (items : List Value)
  /-- A reference to a custom property whose value is recorded. -/
  | rootValue (name : Text) (stream : List Value)
  | template (source : Text) (blueprint : Template) (arguments : List Value)
  /-- A call that CSS evaluates, with values that follow it. -/
  | call (source name : Text) (arguments trailing : List Value)
  /-- A function computed here, with values that follow it. -/
  | computed (source : Text) (function : CustomFunction) (arguments trailing : List Value)
  /-- A template whose arguments cannot be counted. -/
  | outOfRange

/-- The value is a character that attaches to its neighbours. -/
def Value.isGlue : Value → Bool
  | .glue _ => true
  | _ => false

/-! ## Pieces -/

/-- The text of a resolved value, and whether it attaches to its neighbours. -/
structure Piece where
  text : Text
  glue : Bool
deriving DecidableEq, Repr

namespace Piece

/-- The words that pieces form: a piece and the next one are in the same word
when one of them is glue. -/
def words : List Piece → List Text
  | [] => []
  | piece :: rest =>
      match words rest with
      | [] => [piece.text]
      | word :: others =>
          if piece.glue || rest.head?.any Piece.glue then
            (piece.text ++ word) :: others
          else
            piece.text :: word :: others

/-- The words of a stream of pieces, separated by spaces. -/
def stream (pieces : List Piece) : Text :=
  List.intercalate [' '] (words pieces)

/-- Arguments under construction: their text so far, and whether the next piece
attaches to it. -/
structure Draft where
  text : Text
  attached : Bool
deriving DecidableEq, Repr

/-- Add a piece to arguments, with a space before it unless it attaches or
nothing was written so far. -/
def Draft.add (draft : Draft) (piece : Piece) : Draft :=
  if draft.text = [] || draft.attached || piece.glue then
    ⟨draft.text ++ piece.text, piece.glue⟩
  else
    ⟨draft.text ++ ' ' :: piece.text, piece.glue⟩

/-- The text of the arguments of a call. -/
def callArguments (pieces : List Piece) : Text :=
  (pieces.foldl Draft.add ⟨[], false⟩).text

/-- The text that follows a call, a space before every piece. -/
def trailing (pieces : List Piece) : Text :=
  pieces.flatMap fun piece => ' ' :: piece.text

end Piece

end AtomicCss
