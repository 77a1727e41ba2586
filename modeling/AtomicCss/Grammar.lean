import AtomicCss.Text.Basic

/-!
Contract: the marks of the class grammar and the fixed texts of stylesheets.

Owns:
- the scheme that starts every class name, and the separators inside one;
- the reserved tokens and the markers that start parts;
- the limits and fixed texts that several modules share.

Does not own: the markers of values, which a lexicon can change.
-/

namespace AtomicCss.Grammar

/-! ## Separators -/

/-- Every class name of the grammar starts with the scheme. -/
def scheme : Text := "cssf--".toList

/-- Separates the tokens inside a part. -/
def valueSeparator : Char := '_'

/-- Separates the instructions of a target, and the pieces of a function argument. -/
def dash : Char := '-'

/-- The texts between two dashes in a row, found from left to right. -/
def parts : Text → List Text
  | [] => [[]]
  | '-' :: '-' :: rest => [] :: parts rest
  | character :: rest =>
      match parts rest with
      | [] => [[character]]
      | first :: others => (character :: first) :: others

/-! ## Reserved tokens -/

/-- The part that turns off the importance of all declarations of a class. -/
def unimportant : Text := "ni".toList

/-- Ends the arguments of a function. -/
def close : Text := "close".toList

/-- Marks a character that is glued to its neighbours without a space. -/
def glue : Text := "chrsl-".toList

/-- Marks a position for an argument inside a blueprint. -/
def placeholder : Char := '§'

/-! ## Markers of parts -/

def mediaQuery : Text := "mq".toList
def containerQuery : Text := "cq".toList
def keyframes : Text := "kf-".toList
def fontFace : Text := "fface-".toList
def target : Text := "tar-".toList
def customProperty : Text := "val-".toList
def rootValue : Text := "rval-".toList
def template : Text := "tpl-".toList

/-! ## Limits and fixed texts -/

/-- Expansions nest at most this deep unless a ceiling is given. -/
def defaultCeiling : Nat := 15

/-- The number of pixels of a root em. -/
def pixelsPerRem : Float := 16.0

/-- Follows every declaration of an important rule. -/
def importantMark : Text := " !important".toList

/-- The identifier of the style element that holds a stylesheet. -/
def styleElementId : Text := "cssf-main".toList

end AtomicCss.Grammar
