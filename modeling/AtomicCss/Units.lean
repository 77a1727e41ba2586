import AtomicCss.Decimal.Reader
import AtomicCss.Decimal.Shortest
import AtomicCss.Grammar

/-!
Contract: numeric value tokens and the units written after them.

Owns:
- the test for a numeric token;
- the unit table, from the shorthand of a class name to CSS;
- the scaling of a bare integer from pixels to root ems.

Does not own: which tokens are looked up in the table, which the reading of
values decides.
-/

namespace AtomicCss.Units

/-- A quantity in CSS: the shortest digits, and zero without a sign. -/
def quantity (number : Float) : Text :=
  if number == 0.0 then ['0'] else Decimal.write number

/-! ## Numeric tokens -/

/-- A text starts with a decimal digit. -/
def startsWithDigit (text : Text) : Bool :=
  text.head?.any isDecimalDigit

/-- A numeric token starts with a digit, or with a minus sign or the letter `n`
and a digit. -/
def isNumeric : Text → Bool
  | [] => false
  | first :: rest =>
      if first = '-' ∨ first = 'n' then startsWithDigit rest else isDecimalDigit first

/-- A token without a minus sign, written `n` or `-`, and whether it had one. -/
def dropSign : Text → Bool × Text
  | 'n' :: rest => (true, rest)
  | '-' :: rest => (true, rest)
  | token => (false, token)

/-- The number that the digits of a token write.  Digits of other scripts than
ASCII are not read and count as zero. -/
def numberOf (written : Text) : Float :=
  (Decimal.read? written).getD 0.0

/-- A number with its unit: `px` and `p` (per cent) keep the digits, `pxrem` is
divided into root ems, `div10` and `div100` divide and leave no unit, and any
other unit is kept as it is. -/
def withUnit (written unit : Text) : Text :=
  if unit = "p".toList then
    written ++ ['%']
  else if unit = "pxrem".toList then
    quantity (numberOf written / Grammar.pixelsPerRem) ++ "rem".toList
  else if unit = "div10".toList then
    quantity (numberOf written / 10.0)
  else if unit = "div100".toList then
    quantity (numberOf written / 100.0)
  else
    written ++ unit

/-- Apply the unit table to a numeric token.  Any other token, and one with a
line feed in its unit, stays as it is. -/
def convert (token : Text) : Text :=
  if isNumeric token then
    let (negative, body) := dropSign token
    let digits := Text.digits body
    let unit := Text.afterDigits body
    if digits = [] ∨ '\n' ∈ unit then
      token
    else
      withUnit (if negative then '-' :: digits else digits) unit
  else
    token

/-- An optional minus sign and ASCII digits, at least one. -/
def isPlainInteger (text : Text) : Bool :=
  let digits := if text.head? = some '-' then text.tail else text
  digits ≠ [] && digits.all Char.isDigit

/-- A bare integer counts pixels and is written in root ems.  Any other text
stays as it is. -/
def scaleToRem (text : Text) : Text :=
  if isPlainInteger text then
    quantity (numberOf text / Grammar.pixelsPerRem) ++ "rem".toList
  else
    text

end AtomicCss.Units
