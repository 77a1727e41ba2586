import AtomicCss.Calendar

/-!
Contract: what computed functions may read from outside a class name.

Owns: the readings of a clock, of the size of the viewport and of a source of
random digits, taken once.

Does not own: the devices that are read.
-/

namespace AtomicCss

/-- Readings that computed functions depend on. -/
structure Ambient where
  /-- Milliseconds since the start of 1970. -/
  now : Int
  /-- Width and height of the viewport in pixels, when they are known. -/
  viewport : Option (Nat × Nat)
  /-- Six random decimal digits. -/
  randomDigits : Text
deriving DecidableEq, Repr

/-- The present moment. -/
def Ambient.moment (ambient : Ambient) : Moment :=
  Moment.ofMilliseconds ambient.now

end AtomicCss
