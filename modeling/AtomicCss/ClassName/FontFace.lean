import AtomicCss.Value.Resolution

/-!
Contract: font faces.

Owns: reading the descriptors of a font face from a part, and its CSS.

Does not own: how the values of descriptors are resolved.
-/

namespace AtomicCss.FontFace

/-- Descriptors read so far, with the state that reading them leaves. -/
structure Draft where
  descriptors : List Text
  state : Expansion
deriving DecidableEq, Repr

/-- Read descriptors to the end of a stream, a property and a value at a time. -/
def readDescriptors (environment : Environment) : Cursor → Draft → Draft
  | ⟨_, []⟩, draft => draft
  | ⟨position, token :: rest⟩, draft =>
      match _consumed : environment.consume? ⟨position + 1, rest⟩ draft.state with
      | none => draft
      | some consumed =>
          let declared :=
            (environment.lexicon.propertiesOf token).map fun property =>
              property ++ ": ".toList ++ consumed.value
          readDescriptors environment consumed.remaining
            ⟨draft.descriptors ++ declared, consumed.state⟩
termination_by cursor => cursor.rest.length
decreasing_by
  exact Nat.lt_succ_of_lt (Environment.length_rest_of_consume? _consumed)

/-- The family that a part names. -/
def familyOf (part : Text) : Text :=
  (Text.after? Grammar.fontFace (Text.before Grammar.valueSeparator part)).getD []

/-- A font face in CSS. -/
def write (descriptors : List Text) : Text :=
  "@font-face \x7b\n  ".toList ++ List.intercalate ";\n  ".toList descriptors ++
    ";\n\x7d".toList

/-- Read the font face of a part.  Without a family there is none. -/
def read? (environment : Environment) (part : Text) (state : Expansion) :
    Option Text × Expansion :=
  let family := familyOf part
  if family = [] then
    (none, state)
  else
    let cursor := (Cursor.ofText Grammar.valueSeparator part).take 1
    let draft :=
      readDescriptors environment cursor.2
        ⟨["font-family: ".toList ++ Text.quoted family], state⟩
    (some (write draft.descriptors), draft.state)

end AtomicCss.FontFace
