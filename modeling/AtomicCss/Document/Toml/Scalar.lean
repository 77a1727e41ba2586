import AtomicCss.Decimal.Reader
import AtomicCss.Document.Basic
import AtomicCss.Text.DecimalDigit

/-!
Contract: numbers, words and moments in TOML.

Owns: reading one of them from the characters that it is written with, and the
normal text of a moment.

Does not own: strings and everything that has parts.
-/

namespace AtomicCss.Toml

/-- The characters of numbers, words and moments. -/
def isScalarCharacter (character : Char) : Bool :=
  character.isAlphanum || ['+', '-', '_', '.', ':'].contains character

/-- A text without the sign in front, and whether that is a minus. -/
def dropSign : Text → Bool × Text
  | '+' :: rest => (false, rest)
  | '-' :: rest => (true, rest)
  | text => (false, text)

/-! ## Whole numbers -/

/-- Digits without the underscores between them.  An underscore has a digit on
both sides. -/
def plainDigits? (isDigit : Char → Bool) (written : Text) : Option Text :=
  let groups := Text.split '_' written
  if groups.all fun group => group ≠ [] && group.all isDigit then
    some groups.flatten
  else
    none

/-- Decimal digits of which the first is a zero only when it is the only one. -/
def wholeDigits? (written : Text) : Option Text :=
  (plainDigits? Char.isDigit written).filter fun digits =>
    digits.head? ≠ some '0' || digits.length = 1

/-- The number that digits write in a base. -/
def valueIn (base : Nat) (digits : Text) : Nat :=
  digits.foldl (fun value digit =>
    value * base +
      (if digit.isDigit then digit.toNat - '0'.toNat
       else digit.toLower.toNat - 'a'.toNat + 10)) 0

/-- An integer of 64 bits. -/
def within64? (value : Int) : Option Document :=
  if -9223372036854775808 ≤ value ∧ value < 9223372036854775808 then
    some (.integer value)
  else
    none

/-- A digit of a base up to sixteen. -/
def isDigitIn (base : Nat) (character : Char) : Bool :=
  (character.isDigit ||
    ('a' ≤ character.toLower && character.toLower ≤ 'f')) &&
    valueIn 16 [character] < base

/-- A whole number in a base other than ten. -/
def basedInteger? (base : Nat) (written : Text) : Option Document :=
  (plainDigits? (isDigitIn base) written).bind fun digits =>
    within64? (valueIn base digits)

/-- A whole number. -/
def integer? (written : Text) : Option Document :=
  match written with
  | '0' :: 'x' :: digits => basedInteger? 16 digits
  | '0' :: 'o' :: digits => basedInteger? 8 digits
  | '0' :: 'b' :: digits => basedInteger? 2 digits
  | _ =>
      let (negative, size) := dropSign written
      (wholeDigits? size).bind fun digits =>
        let value := valueIn 10 digits
        within64? (if negative then -value else value)

/-! ## Other numbers -/

/-- The digits of an exponent, after its mark. -/
def isExponent (written : Text) : Bool :=
  (plainDigits? Char.isDigit (dropSign written).2).isSome

/-- What comes before and after the mark of an exponent. -/
def cutExponent (written : Text) : Text × Option Text :=
  let isMark (character : Char) : Bool := character = 'e' || character = 'E'
  match written.dropWhile (!isMark ·) with
  | [] => (written, none)
  | _ :: exponent => (written.takeWhile (!isMark ·), some exponent)

/-- A number with a point or an exponent. -/
def isBroken (written : Text) : Bool :=
  let (mantissa, exponent) := cutExponent (dropSign written).2
  let fraction := Text.beyond? '.' mantissa
  (wholeDigits? (Text.before '.' mantissa)).isSome &&
    (fraction.isSome || exponent.isSome) &&
    (fraction.all fun digits => (plainDigits? Char.isDigit digits).isSome) &&
    exponent.all isExponent

/-- A number that is none or has no bound. -/
def isSpecial (written : Text) : Bool :=
  let (_, word) := dropSign written
  word = "inf".toList || word = "nan".toList

/-- A number that no setting takes.  One that is too great to be told from infinity
is refused. -/
def other? (written : Text) : Option Document :=
  if isSpecial written then
    some .other
  else if isBroken written then
    match Decimal.read? (written.filter (· ≠ '_')) with
    | some number => if number.isInf && 0 < number then none else some .other
    | none => none
  else
    none

/-! ## Moments -/

/-- The value of a field with a fixed number of digits, if it is within bounds. -/
def field? (width least greatest : Nat) (written : Text) : Option Nat :=
  if written.length = width then
    (Text.toNatBelow? (greatest + 1) written).filter fun value => least ≤ value
  else
    none

/-- The number of days in a month. -/
def daysIn (year month : Nat) : Nat :=
  if month = 2 then
    if year % 4 = 0 && (year % 100 ≠ 0 || year % 400 = 0) then 29 else 28
  else if month = 4 || month = 6 || month = 9 || month = 11 then
    30
  else
    31

/-- The normal text of a date. -/
def date? (written : Text) : Option Text :=
  match Text.split '-' written with
  | [yearText, monthText, dayText] => do
      let year ← field? 4 0 9999 yearText
      let month ← field? 2 1 12 monthText
      let _ ← field? 2 1 (daysIn year month) dayText
      return written
  | _ => none

/-- The normal text of hours and minutes. -/
def hourMinute? (written : Text) : Option Text :=
  match Text.split ':' written with
  | [hour, minute] => do
      let _ ← field? 2 0 23 hour
      let _ ← field? 2 0 59 minute
      return written
  | _ => none

/-- The normal text of a fraction of a second with its point.  Nine digits of it
count, and zeros at the end do not. -/
def fraction? (digits : Text) : Option Text :=
  if digits = [] || !digits.all Char.isDigit then
    none
  else
    let counted := ((digits.take 9).reverse.dropWhile (· = '0')).reverse
    some (if counted = [] then [] else '.' :: counted)

/-- The normal text of a time of day, with or without a fraction of a second. -/
def time? (written : Text) : Option Text :=
  match Text.split ':' (Text.before '.' written) with
  | [hour, minute, second] => do
      let start ← hourMinute? (Text.join ':' [hour, minute])
      let _ ← field? 2 0 60 second
      let fraction ←
        match Text.beyond? '.' written with
        | some digits => fraction? digits
        | none => some []
      return start ++ ':' :: second ++ fraction
  | _ => none

/-- The normal text of what may follow a time of day: its distance from universal
time, or the mark of universal time.  No distance has a plus sign. -/
def zone? : Text → Option Text
  | [] => some []
  | ['Z'] | ['z'] => some ['Z']
  | sign :: written =>
      if sign = '+' || sign = '-' then
        (hourMinute? written).map fun distance =>
          (if distance = "00:00".toList then '+' else sign) :: distance
      else
        none

/-- A character of a time of day. -/
def isTimeCharacter (character : Char) : Bool :=
  character.isDigit || character = ':' || character = '.'

/-- The normal text of a time of day that may tell its distance from universal time. -/
def zonedTime? (written : Text) : Option Text := do
  let time ← time? (written.takeWhile isTimeCharacter)
  return time ++ (← zone? (written.dropWhile isTimeCharacter))

/-- The marks that can stand between a date and a time of day. -/
def momentMarks : List Char := ['T', 't', ' ']

/-- The normal text of a date with a time of day, the letter `T` between them. -/
def dateTime? (written : Text) : Option Text := do
  let date ← date? (written.take 10)
  guard (written[10]?.any momentMarks.contains)
  return date ++ 'T' :: (← zonedTime? (written.drop 11))

/-- The normal text of a date, of a time of day, or of both. -/
def moment? (written : Text) : Option Text :=
  ((date? written).or (time? written)).or (dateTime? written)

/-! ## All of them -/

/-- The value of a number, a word or a moment. -/
def scalar? (written : Text) : Option Document :=
  if written = "true".toList then some (.flag true)
  else if written = "false".toList then some (.flag false)
  else ((moment? written).map .moment).or ((integer? written).or (other? written))

end AtomicCss.Toml
