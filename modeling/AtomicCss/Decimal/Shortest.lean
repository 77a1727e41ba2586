import AtomicCss.Decimal.Binary
import AtomicCss.Text.Basic

/-!
Contract: the fewest decimal digits that read back as a given number, and their
text in positional notation.

Owns:
- the interval of reals that round to a number;
- the search for the shortest decimal in it;
- the positional text of a decimal, never with an exponent.

Does not own: the rule that a quantity in a stylesheet has no negative zero,
which belongs to the units.
-/

namespace AtomicCss.Decimal

/-- A decimal `digits * 10 ^ exponent`. -/
structure Scaled where
  digits : Nat
  exponent : Int
deriving DecidableEq, Repr

/-! ## The interval of a number -/

/-- Compare `decimal` with `count * 2 ^ exponent` exactly. -/
def Scaled.compareBinary (decimal : Scaled) (count : Nat) (exponent : Int) : Ordering :=
  compare
    (decimal.digits * Nat.pow 10 decimal.exponent.toNat * Nat.pow 2 (-exponent).toNat)
    (count * Nat.pow 2 exponent.toNat * Nat.pow 10 (-decimal.exponent).toNat)

/-- The decimal rounds to `mantissa * 2 ^ exponent`: it lies between the two
midpoints towards the neighbours, ends included when the mantissa is even. -/
def Scaled.readsBack
    (decimal : Scaled)
    (mantissa : Nat)
    (exponent : Int)
    (narrowBelow : Bool) : Bool :=
  let low := if narrowBelow then 4 * mantissa - 1 else 4 * mantissa - 2
  let fromLow := decimal.compareBinary low (exponent - 2)
  let fromHigh := decimal.compareBinary (4 * mantissa + 2) (exponent - 2)
  let even := mantissa % 2 = 0
  (fromLow = .gt || (even && fromLow = .eq)) &&
    (fromHigh = .lt || (even && fromHigh = .eq))

/-! ## The shortest decimal -/

/-- The greatest multiple of `10 ^ place` that is at most `mantissa * 2 ^ exponent`. -/
def floorAt (mantissa : Nat) (exponent place : Int) : Nat :=
  mantissa * Nat.pow 2 exponent.toNat * Nat.pow 10 (-place).toNat /
    (Nat.pow 2 (-exponent).toNat * Nat.pow 10 place.toNat)

/-- On one decimal place, the neighbour of the number that reads back and is
nearer to it.  Of two that are equally near, the greater one. -/
def atPlace?
    (mantissa : Nat)
    (exponent : Int)
    (narrowBelow : Bool)
    (place : Int) : Option Scaled :=
  let below : Scaled := ⟨floorAt mantissa exponent place, place⟩
  let above : Scaled := ⟨below.digits + 1, place⟩
  let belowFits := below.readsBack mantissa exponent narrowBelow
  let aboveFits := above.readsBack mantissa exponent narrowBelow
  let middle : Scaled := ⟨5 * (below.digits + above.digits), place - 1⟩
  if belowFits && (!aboveFits || middle.compareBinary mantissa exponent = .gt) then
    some below
  else if aboveFits then
    some above
  else
    none

/-- The place of the leading decimal digit of a positive number. -/
def leadingPlace (mantissa : Nat) (exponent : Int) : Int :=
  let guess := ((mantissa.log2 : Int) + exponent) * 30103 / 100000
  if floorAt mantissa exponent (guess + 1) > 0 then guess + 1
  else if floorAt mantissa exponent guess > 0 then guess
  else guess - 1

/-- Move the zeros at the end of the digits into the exponent. -/
def Scaled.strip : Nat → Scaled → Scaled
  | 0, decimal => decimal
  | fuel + 1, decimal =>
      if decimal.digits ≠ 0 ∧ decimal.digits % 10 = 0 then
        Scaled.strip fuel ⟨decimal.digits / 10, decimal.exponent + 1⟩
      else
        decimal

/-- The decimal with the fewest digits that reads back as a positive number, and
of those the nearest to it.  Seventeen digits always suffice. -/
def shortest (mantissa : Nat) (exponent : Int) (narrowBelow : Bool) : Scaled :=
  let leading := leadingPlace mantissa exponent
  let found := (List.range 17).findSome? fun (count : Nat) =>
    atPlace? mantissa exponent narrowBelow (leading - count)
  match found with
  | some decimal => decimal.strip 20
  | none => ⟨mantissa * Nat.pow 2 exponent.toNat * Nat.pow 5 (-exponent).toNat, min exponent 0⟩

/-! ## Positional text -/

/-- All digits of a decimal, with zeros up to the point and a leading zero in
front of it where they are needed. -/
def Scaled.positional (decimal : Scaled) : Text :=
  let digits := Text.ofNat decimal.digits
  if decimal.exponent ≥ 0 then
    digits ++ List.replicate decimal.exponent.toNat '0'
  else
    let places := (-decimal.exponent).toNat
    let padded := List.replicate (places + 1 - digits.length) '0' ++ digits
    padded.take (padded.length - places) ++ '.' :: padded.drop (padded.length - places)

/-- The text of a number: the fewest digits that read back, in positional
notation.  Zero keeps its sign. -/
def write (number : Float) : Text :=
  let sign := if isNegative number then ['-'] else []
  match magnitude number with
  | .notANumber => "NaN".toList
  | .infinite => sign ++ "inf".toList
  | .finite 0 _ _ => sign ++ ['0']
  | .finite mantissa exponent narrowBelow =>
      sign ++ (shortest mantissa exponent narrowBelow).positional

end AtomicCss.Decimal
