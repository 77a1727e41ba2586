/-!
Contract: 64-bit binary floating-point numbers as exact integers.

Owns:
- the parts of a finite number, `mantissa * 2 ^ exponent`, and the two values
  that are not finite;
- rounding a quotient of two naturals to the nearest such number, ties to even.

Does not own: decimal texts, which the other modules of this folder read and write.
-/

namespace AtomicCss.Decimal

/-- What a 64-bit floating-point number stands for. -/
inductive Magnitude where
  | notANumber
  | infinite
  /-- The value `mantissa * 2 ^ exponent`.  The flag tells that the next value
  below is half as far away as the next value above. -/
  | finite (mantissa : Nat) (exponent : Int) (narrowBelow : Bool)
deriving DecidableEq, Repr

/-- The sign bit is set. -/
def isNegative (number : Float) : Bool :=
  number.toBits.toNat / Nat.pow 2 63 = 1

/-- What a number stands for, its sign left out. -/
def magnitude (number : Float) : Magnitude :=
  let bits := number.toBits.toNat % Nat.pow 2 63
  let fraction := bits % Nat.pow 2 52
  match bits / Nat.pow 2 52 with
  | 0 => .finite fraction (-1074) false
  | 2047 => if fraction = 0 then .infinite else .notANumber
  | power => .finite (Nat.pow 2 52 + fraction) (power - 1075) (fraction = 0 && power > 1)

/-- A quotient rounded to the nearest natural number, a half to the even one. -/
def roundQuotient (numerator denominator : Nat) : Nat :=
  let quotient := numerator / denominator
  let twice := 2 * (numerator % denominator)
  if twice < denominator || (twice = denominator && quotient % 2 = 0) then
    quotient
  else
    quotient + 1

/-- The numerator of `numerator / denominator * 2 ^ shift` over
`scaledDenominator`, without a negative power. -/
def scaledNumerator (numerator : Nat) (shift : Int) : Nat :=
  numerator * Nat.pow 2 shift.toNat

/-- The denominator that belongs to `scaledNumerator`. -/
def scaledDenominator (denominator : Nat) (shift : Int) : Nat :=
  denominator * Nat.pow 2 (-shift).toNat

/-- The exponent of the number nearest to a positive quotient: the one that
gives its mantissa 53 binary digits, but never below that of the least number. -/
def nearestExponent (numerator denominator : Nat) : Int :=
  let guess : Int := (numerator.log2 : Int) - denominator.log2 - 52
  let short :=
    scaledNumerator numerator (-guess) / scaledDenominator denominator (-guess) < Nat.pow 2 52
  max (-1074) (if short then guess - 1 else guess)

/-- The number nearest to a quotient, a half to the even mantissa.  A quotient
past the greatest finite number gives infinity. -/
def nearest (negative : Bool) (numerator denominator : Nat) : Float :=
  let exponent := nearestExponent numerator denominator
  let mantissa :=
    roundQuotient (scaledNumerator numerator (-exponent))
      (scaledDenominator denominator (-exponent))
  let bits :=
    if numerator = 0 then 0 else (exponent + 1074).toNat * Nat.pow 2 52 + mantissa
  let capped := min bits (2047 * Nat.pow 2 52)
  Float.ofBits (UInt64.ofNat (capped + if negative then Nat.pow 2 63 else 0))

end AtomicCss.Decimal
