import AtomicCss.Decimal.Fixed
import AtomicCss.Grammar

/-!
Contract: font sizes that grow with the width of the viewport.

Owns: the CSS `clamp` whose middle value is linear between two widths.

Does not own: where widths and sizes come from.
-/

namespace AtomicCss.Fluid

/-- A length in root ems with four decimal places. -/
def rem (length : Float) : Text :=
  Decimal.writeFixed 4 length ++ "rem".toList

/-- The `clamp` of three texts. -/
def clampText (least preferred greatest : Text) : Text :=
  "clamp(".toList ++ least ++ ", ".toList ++ preferred ++ ", ".toList ++ greatest ++ [')']

/-- A font size, given in pixels, that grows linearly from one viewport width to
another.  Without a range of widths the preferred size is midway. -/
def clamp (minWidth maxWidth minFont maxFont : Float) : Text :=
  let least := minFont / Grammar.pixelsPerRem
  let greatest := maxFont / Grammar.pixelsPerRem
  let narrow := minWidth / Grammar.pixelsPerRem
  let wide := maxWidth / Grammar.pixelsPerRem
  if wide ≤ narrow then
    clampText (rem least) (rem ((least + greatest) / 2.0)) (rem greatest)
  else
    let slope := (greatest - least) / (wide - narrow)
    let start := -narrow * slope + least
    let growth := Decimal.writeFixed 4 (slope * 100.0) ++ "vw".toList
    clampText (rem least) (rem start ++ " + ".toList ++ growth) (rem greatest)

end AtomicCss.Fluid
