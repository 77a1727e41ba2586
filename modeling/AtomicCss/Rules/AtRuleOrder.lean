import AtomicCss.Text.Blank
import AtomicCss.Text.DecimalDigit

/-!
Contract: the order of at-rules in a stylesheet.

Owns:
- the width that an at-rule applies from or up to;
- the order: media, containers, all others; least widths, greatest widths, no
  width, the narrow before the wide; and then the text.

Does not own: the writing of at-rules.
-/

namespace AtomicCss.AtRule

/-! ## Widths -/

/-- The width at which an at-rule begins or ends to apply. -/
inductive Breakpoint where
  | least (pixels : Nat)
  | greatest (pixels : Nat)
  | unbounded
deriving DecidableEq, Repr

/-- The digits of a width condition at the front of a text. -/
def conditionDigits? (opening text : Text) : Option Text :=
  (Text.after? opening text).bind fun rest =>
    let trimmed := Text.trimStart rest
    let digits := Text.digits trimmed
    if digits ≠ [] && Text.startsWith "px)".toList (Text.afterDigits trimmed) then
      some digits
    else
      none

/-- The digits of the first width condition in a text. -/
def firstDigits? (opening : Text) : Text → Option Text
  | [] => none
  | character :: rest =>
      (conditionDigits? opening (character :: rest)).or (firstDigits? opening rest)

/-- The width in the first condition of a text, if it is a 64-bit word. -/
def width? (opening text : Text) : Option Nat :=
  (firstDigits? opening text).bind (Text.toNatBelow? wordLimit)

/-- The breakpoint of an at-rule: its least width, else its greatest width. -/
def breakpoint (atRule : Text) : Breakpoint :=
  match width? "(min-width:".toList atRule with
  | some pixels => .least pixels
  | none =>
      match width? "(max-width:".toList atRule with
      | some pixels => .greatest pixels
      | none => .unbounded

/-! ## Order -/

/-- Media come before containers, and containers before all others. -/
def kindRank (atRule : Text) : Nat :=
  if Text.startsWith "@media".toList atRule then 0
  else if Text.startsWith "@container".toList atRule then 1
  else 2

/-- Least widths come before greatest widths, and those before no width. -/
def Breakpoint.rank : Breakpoint → Nat
  | .least _ => 0
  | .greatest _ => 1
  | .unbounded => 2

/-- The width of a breakpoint. -/
def Breakpoint.pixels : Breakpoint → Nat
  | .least pixels | .greatest pixels => pixels
  | .unbounded => 0

/-- The order of at-rules. -/
def order : Text → Text → Ordering :=
  compareLex (compareOn kindRank)
    (compareLex (compareOn fun atRule => (breakpoint atRule).rank)
      (compareLex (compareOn fun atRule => (breakpoint atRule).pixels)
        (compareOn id)))

/-- At-rules in their order. -/
def sort (atRules : List Text) : List Text :=
  atRules.mergeSort fun first second => (order first second).isLE

end AtomicCss.AtRule
