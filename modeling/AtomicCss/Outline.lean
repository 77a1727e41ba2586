import AtomicCss.ClassName.Contribution
import AtomicCss.Text.Display

/-!
Contract: values shown in full, for a reader who looks for a mistake.

Owns:
- outlines, which are values with named parts, and how they are laid out;
- the outline of a contribution.

Does not own: how a text is shown within quotes.
-/

namespace AtomicCss

/-- A value to be shown in full. -/
inductive Outline where
  /-- A word that stands for itself. -/
  | word (shown : Text)
  | text (value : Text)
  | list (items : List Outline)
  | tuple (items : List Outline)
  | wrapped (name : Text) (item : Outline)
  | record (name : Text) (fields : List (Text × Outline))

namespace Outline

/-- The start of a line at a depth. -/
def newLine (depth : Nat) : Text :=
  '\n' :: List.replicate (4 * depth) ' '

/-- Parts within brackets, each on a line of its own and with a comma after it. -/
def block (opening closing : Text) (depth : Nat) (parts : List Text) : Text :=
  if parts = [] then
    opening ++ closing
  else
    opening ++ (parts.flatMap fun part => newLine (depth + 1) ++ part ++ [',']) ++
      newLine depth ++ closing

mutual

/-- The layout of an outline at a depth. -/
def writeAt (depth : Nat) : Outline → Text
  | .word shown => shown
  | .text value => Text.display value
  | .list items => block ['['] [']'] depth (writeItems (depth + 1) items)
  | .tuple items => block ['('] [')'] depth (writeItems (depth + 1) items)
  | .wrapped name item => block (name ++ ['(']) [')'] depth [writeAt (depth + 1) item]
  | .record name fields =>
      block (name ++ " \x7b".toList) ['\x7d'] depth (writeFields (depth + 1) fields)

/-- The layouts of items at a depth. -/
def writeItems (depth : Nat) : List Outline → List Text
  | [] => []
  | item :: others => writeAt depth item :: writeItems depth others

/-- The layouts of fields at a depth, after their names. -/
def writeFields (depth : Nat) : List (Text × Outline) → List Text
  | [] => []
  | (name, value) :: others =>
      (name ++ ": ".toList ++ writeAt depth value) :: writeFields depth others

end

/-- The layout of an outline. -/
def write (outline : Outline) : Text :=
  writeAt 0 outline

/-! ## Outlines of values -/

/-- A flag. -/
def ofFlag (flag : Bool) : Outline :=
  .word (toString flag).toList

/-- A list of texts. -/
def ofTexts (texts : List Text) : Outline :=
  .list (texts.map .text)

/-- A value that may be missing. -/
def ofOption {α : Type} (outline : α → Outline) : Option α → Outline
  | none => .word "None".toList
  | some value => .wrapped "Some".toList (outline value)

/-- A record, its fields named in order. -/
def ofFields (name : String) (fields : List (String × Outline)) : Outline :=
  .record name.toList (fields.map fun field => (field.1.toList, field.2))

/-- An animation. -/
def ofKeyframes (keyframes : Keyframes) : Outline :=
  ofFields "Keyframes"
    [("name", .text keyframes.name),
     ("frames", .list (keyframes.frames.map fun frame =>
        .tuple [.text frame.1, ofTexts frame.2]))]

/-- A declaration on the root element. -/
def ofRoot (root : RootDeclaration) : Outline :=
  ofFields "RootDeclaration"
    [("name", .text root.name), ("value", .text root.value),
     ("class_name", .text root.className)]

/-- A contribution. -/
def ofContribution (contribution : Contribution) : Outline :=
  ofFields "ParseContext"
    [("class_name", .text contribution.className),
     ("selector", .text contribution.selector),
     ("declarations", ofTexts contribution.declarations),
     ("at_rule", ofOption .text contribution.atRule),
     ("important", ofFlag contribution.important),
     ("keyframes", ofOption ofKeyframes contribution.keyframes),
     ("font_face", ofOption .text contribution.fontFace),
     ("root_rules", .list (contribution.rootRules.map ofRoot))]

end Outline

end AtomicCss
