import AtomicCss.Ambient
import AtomicCss.Decimal.Leading
import AtomicCss.Decimal.Shortest
import AtomicCss.Lexicon.Fluid

/-!
Contract: functions that are computed while a class name is read.

Owns: the built-in functions and their names.

Does not own: the calling of a function from a token.
-/

namespace AtomicCss

/-- A computed function.  It gives nothing when its arguments cannot be used. -/
abbrev CustomFunction := List Text → Ambient → Option Text

namespace CustomFunction

/-- The number at the front of an argument. -/
def number? (arguments : List Text) (index : Nat) : Option Float :=
  arguments[index]?.bind Decimal.leading?

/-- An argument as it stands, empty when it is missing. -/
def literal (arguments : List Text) (index : Nat) : Text :=
  arguments[index]?.getD []

/-! ## Clock and chance -/

def dateNow : CustomFunction := fun _ ambient =>
  some ambient.moment.dateText

def dateTime : CustomFunction := fun _ ambient =>
  some (ambient.moment.dateText ++ ", ".toList ++ ambient.moment.timeText)

def timestamp : CustomFunction := fun _ ambient =>
  some (Text.ofInt ambient.now)

def random : CustomFunction := fun _ ambient =>
  some ambient.randomDigits

def year : CustomFunction := fun _ ambient =>
  some (Text.ofInt ambient.moment.year)

def month : CustomFunction := fun _ ambient =>
  some (Text.ofNat ambient.moment.month)

def day : CustomFunction := fun _ ambient =>
  some (Text.ofNat ambient.moment.day)

/-! ## Viewport -/

/-- A side of the viewport in pixels, or a unit of its own when it is not known. -/
def viewportSide (side : Nat × Nat → Nat) (unknown : Text) : CustomFunction :=
  fun _ ambient =>
    match ambient.viewport with
    | some size => some (Text.ofNat (side size) ++ "px".toList)
    | none => some unknown

def viewportWidth : CustomFunction :=
  viewportSide Prod.fst "100vw".toList

def viewportHeight : CustomFunction :=
  viewportSide Prod.snd "100vh".toList

/-! ## Arithmetic -/

/-- A fluid size from a least and a greatest size and a viewport width.  When one
of them is no number the arguments stay as they stand. -/
def clamp : CustomFunction := fun arguments _ =>
  match number? arguments 0, number? arguments 1, number? arguments 2 with
  | some least, some greatest, some width =>
      some (Fluid.clamp 0.0 width least greatest)
  | _, _, _ =>
      some (Fluid.clampText (literal arguments 0) (literal arguments 1)
        (literal arguments 2))

def remToPx : CustomFunction := fun arguments _ =>
  (number? arguments 0).map fun rem =>
    Decimal.write (rem * Grammar.pixelsPerRem) ++ "px".toList

def pxToRem : CustomFunction := fun arguments _ =>
  (number? arguments 0).map fun pixels =>
    Decimal.write (pixels / Grammar.pixelsPerRem) ++ "rem".toList

/-- A part of a whole in per cent.  There is no part of nothing. -/
def percentage : CustomFunction := fun arguments _ =>
  match number? arguments 0, number? arguments 1 with
  | some part, some whole =>
      if whole == 0.0 then
        none
      else
        some (Decimal.write (part / whole * 100.0) ++ ['%'])
  | _, _ => none

/-- The built-in functions by name. -/
def standard : List (Text × CustomFunction) :=
  [("date-now".toList, dateNow),
   ("date-time".toList, dateTime),
   ("timestamp".toList, timestamp),
   ("random".toList, random),
   ("year".toList, year),
   ("month".toList, month),
   ("day".toList, day),
   ("clamp".toList, clamp),
   ("viewport-width".toList, viewportWidth),
   ("viewport-height".toList, viewportHeight),
   ("rem-to-px".toList, remToPx),
   ("px-to-rem".toList, pxToRem),
   ("percentage".toList, percentage)]

end CustomFunction

end AtomicCss
