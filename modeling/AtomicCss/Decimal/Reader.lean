import AtomicCss.Decimal.Binary
import AtomicCss.Text.DecimalDigit

/-!
Contract: the number that a decimal text writes, correctly rounded.

Owns:
- the grammar of decimal texts: an optional sign, digits with at most one point,
  at least one digit, an optional exponent;
- the words for infinity and for no number, in either case of letters.

Does not own: blanks and units around a number.
-/

namespace AtomicCss.Decimal

/-- A text without the sign at its front, and whether that sign was a minus. -/
def takeSign : Text → Bool × Text
  | '-' :: rest => (true, rest)
  | '+' :: rest => (false, rest)
  | text => (false, text)

/-- An exponent: an `e` in either case, an optional sign and at least one digit. -/
def readExponent? : Text → Option Int
  | [] => some 0
  | mark :: rest =>
      let (negative, run) := takeSign rest
      if (mark = 'e' ∨ mark = 'E') ∧ run ≠ [] ∧ run.all Char.isDigit then
        some (if negative then -(Text.digitsValue run : Int) else Text.digitsValue run)
      else
        none

/-- The number nearest to `digits * 10 ^ exponent`.  Exponents so far out that
the result is zero or infinite are not raised. -/
def ofScaled (negative : Bool) (digits : Nat) (exponent : Int) : Float :=
  let leading := (Nat.toDigits 10 digits).length + exponent
  if digits = 0 ∨ leading < -400 then
    nearest negative 0 1
  else if leading > 400 then
    nearest negative (Nat.pow 10 400) 1
  else
    nearest negative (digits * Nat.pow 10 exponent.toNat) (Nat.pow 10 (-exponent).toNat)

/-- The unsigned digits of a decimal text: whole part, point, fraction, exponent. -/
def readUnsigned? (negative : Bool) (text : Text) : Option Float :=
  let whole := text.takeWhile Char.isDigit
  let afterWhole := text.dropWhile Char.isDigit
  let hasPoint := afterWhole.head? = some '.'
  let afterPoint := if hasPoint then afterWhole.tail else afterWhole
  let fraction := if hasPoint then afterPoint.takeWhile Char.isDigit else []
  let rest := if hasPoint then afterPoint.dropWhile Char.isDigit else afterPoint
  if whole = [] ∧ fraction = [] then
    none
  else
    (readExponent? rest).map fun exponent =>
      ofScaled negative (Text.digitsValue (whole ++ fraction)) (exponent - fraction.length)

/-- The number that a text writes, when all of the text is one. -/
def read? (text : Text) : Option Float :=
  let (negative, unsigned) := takeSign text
  let word := unsigned.map Char.toLower
  if word = "inf".toList ∨ word = "infinity".toList then
    some (nearest negative (Nat.pow 10 400) 1)
  else if word = "nan".toList then
    some (0.0 / 0.0)
  else
    readUnsigned? negative unsigned

end AtomicCss.Decimal
