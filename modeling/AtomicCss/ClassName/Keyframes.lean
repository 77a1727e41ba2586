import AtomicCss.Value.Resolution

/-!
Contract: animations.

Owns:
- keyframes and their CSS;
- the frame selectors;
- reading the frames of an animation from a part.

Does not own: how the values in frames are resolved.
-/

namespace AtomicCss

/-- A named animation, the frames in the order in which they were first mentioned. -/
structure Keyframes where
  name : Text
  /-- Each frame selector with its declarations. -/
  frames : List (Text × List Text)
deriving DecidableEq, Repr

namespace Keyframes

/-! ## Writing -/

/-- One frame in CSS, on a line of its own. -/
def frameText (frame : Text × List Text) : Text :=
  "  ".toList ++ frame.1 ++ " \x7b ".toList ++ List.intercalate "; ".toList frame.2 ++
    " \x7d\n".toList

/-- An animation in CSS. -/
def write (keyframes : Keyframes) : Text :=
  "@keyframes ".toList ++ keyframes.name ++ " \x7b\n".toList ++
    keyframes.frames.flatMap frameText ++ ['\x7d']

/-! ## Reading -/

/-- The selector of the frame that a token starts: `from`, `to`, or digits and a `p` for
per cent. -/
def selectorOf? (token : Text) : Option Text :=
  if token = "from".toList ∨ token = "to".toList then
    some token
  else if Text.digits token ≠ [] ∧ Text.afterDigits token = ['p'] then
    some (Text.digits token ++ ['%'])
  else
    none

/-- Frames under construction. -/
structure Draft where
  frames : OrderedMap Text (List Text)
  /-- The selector of the frame that declarations go to. -/
  current : Option Text
  state : Expansion
deriving DecidableEq, Repr

/-- Begin a frame, or come back to one. -/
def Draft.select (draft : Draft) (selector : Text) : Draft :=
  { draft with
    frames := draft.frames.alter selector fun declarations => declarations.getD []
    current := some selector }

/-- Declare the properties of a token in a frame. -/
def Draft.declare (draft : Draft) (selector : Text) (properties : List Text) (value : Text) :
    Draft :=
  { draft with
    frames := draft.frames.alter selector fun declarations =>
      declarations.getD [] ++
        properties.map fun property => property ++ ": ".toList ++ value }

/-- Read frames to the end of a stream.  Tokens before the first selector are
skipped; a property is followed by its value, and an empty value declares nothing. -/
def readFrames (environment : Environment) : Cursor → Draft → Draft
  | ⟨_, []⟩, draft => draft
  | ⟨position, token :: rest⟩, draft =>
      match selectorOf? token, draft.current with
      | some selector, _ =>
          readFrames environment ⟨position + 1, rest⟩ (draft.select selector)
      | none, none => readFrames environment ⟨position + 1, rest⟩ draft
      | none, some selector =>
          match _consumed : environment.consume? ⟨position + 1, rest⟩ draft.state with
          | none => draft
          | some consumed =>
              let resolved := { draft with state := consumed.state }
              if consumed.value = [] then
                readFrames environment consumed.remaining resolved
              else
                readFrames environment consumed.remaining
                  (resolved.declare selector
                    (environment.lexicon.propertiesOf token) consumed.value)
termination_by cursor => cursor.rest.length
decreasing_by
  · simp
  · simp
  all_goals exact Nat.lt_succ_of_lt (Environment.length_rest_of_consume? _consumed)

/-- The name of the animation of a part. -/
def nameOf (part : Text) : Text :=
  (Text.after? Grammar.keyframes (Text.before Grammar.valueSeparator part)).getD []

/-- Read the animation of a part.  Without a name there is none. -/
def read? (environment : Environment) (part : Text) (state : Expansion) :
    Option Keyframes × Expansion :=
  let name := nameOf part
  if name = [] then
    (none, state)
  else
    let cursor := (Cursor.ofText Grammar.valueSeparator part).take 1
    let draft := readFrames environment cursor.2 ⟨.empty, none, state⟩
    (some ⟨name, draft.frames.entries⟩, draft.state)

end Keyframes

end AtomicCss
