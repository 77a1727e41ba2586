import AtomicCss.Decimal.Reader
import AtomicCss.Text.Blank

/-!
Contract: the number at the front of a text such as `16px` or `1.5rem`.

Owns: the longest front part of a text, after blanks, that has the form of a
decimal number.

Does not own: what follows the number.
-/

namespace AtomicCss.Decimal

/-- The sign at the front of a text, kept as it is written. -/
def signPart : Text → Text
  | '-' :: _ => ['-']
  | '+' :: _ => ['+']
  | _ => []

/-- Digits with at most one point, and at least one digit, at the front of a text. -/
def mantissaPart? (text : Text) : Option Text :=
  let whole := Text.digits text
  match Text.afterDigits text with
  | '.' :: rest =>
      let fraction := Text.digits rest
      if whole = [] ∧ fraction = [] then none else some (whole ++ '.' :: fraction)
  | _ => if whole = [] then none else some whole

/-- An exponent at the front of a text, empty when none is complete. -/
def exponentPart : Text → Text
  | [] => []
  | mark :: rest =>
      let sign := signPart rest
      let run := Text.digits (rest.drop sign.length)
      if (mark = 'e' ∨ mark = 'E') ∧ run ≠ [] then mark :: sign ++ run else []

/-- The number at the front of a text, after blanks.  Digits of other scripts
than ASCII take part in its form but are not read. -/
def leading? (text : Text) : Option Float :=
  let trimmed := Text.trimStart text
  let sign := signPart trimmed
  let unsigned := trimmed.drop sign.length
  (mantissaPart? unsigned).bind fun mantissa =>
    read? (sign ++ mantissa ++ exponentPart (unsigned.drop mantissa.length))

end AtomicCss.Decimal
