import AtomicCss.Decimal.Binary
import AtomicCss.Text.Basic

/-!
Contract: the text of a number with a fixed number of decimal places.

Owns:
- rounding the exact value at a decimal place, a half to the even neighbour;
- the text, which keeps the sign of a value that rounds to zero.

Does not own: how many places a stylesheet uses.
-/

namespace AtomicCss.Decimal

/-- `mantissa * 2 ^ exponent` in units of the last of `places` decimal places. -/
def unitsAt (places mantissa : Nat) (exponent : Int) : Nat :=
  roundQuotient (mantissa * Nat.pow 2 exponent.toNat * Nat.pow 10 places)
    (Nat.pow 2 (-exponent).toNat)

/-- A count of units of the last decimal place, with the point put in. -/
def pointed (places units : Nat) : Text :=
  let digits := Text.ofNat (units % Nat.pow 10 places)
  Text.ofNat (units / Nat.pow 10 places) ++
    '.' :: (List.replicate (places - digits.length) '0' ++ digits)

/-- The text of a number with at least one decimal place. -/
def writeFixed (places : Nat) (number : Float) : Text :=
  let sign := if isNegative number then ['-'] else []
  match magnitude number with
  | .notANumber => "NaN".toList
  | .infinite => sign ++ "inf".toList
  | .finite mantissa exponent _ => sign ++ pointed places (unitsAt places mantissa exponent)

end AtomicCss.Decimal
