import AtomicCss.Text.Basic

/-!
Contract: decimal digits of every script, and the runs of them that start a text.

Owns:
- the Unicode general category Nd, as of Unicode 16;
- the digit run at the front of a text and what follows it;
- the value of a run of ASCII digits.

Does not own: signs, decimal points and exponents.
-/

namespace AtomicCss

/-- The first character of each run of ten decimal digits outside ASCII. -/
def digitZeros : List Nat :=
  [0x660, 0x6F0, 0x7C0, 0x966, 0x9E6, 0xA66, 0xAE6, 0xB66, 0xBE6, 0xC66, 0xCE6,
   0xD66, 0xDE6, 0xE50, 0xED0, 0xF20, 0x1040, 0x1090, 0x17E0, 0x1810, 0x1946,
   0x19D0, 0x1A80, 0x1A90, 0x1B50, 0x1BB0, 0x1C40, 0x1C50, 0xA620, 0xA8D0,
   0xA900, 0xA9D0, 0xA9F0, 0xAA50, 0xABF0, 0xFF10, 0x104A0, 0x10D30, 0x10D40,
   0x11066, 0x110F0, 0x11136, 0x111D0, 0x112F0, 0x11450, 0x114D0, 0x11650,
   0x116C0, 0x116D0, 0x116DA, 0x11730, 0x118E0, 0x11950, 0x11BF0, 0x11C50,
   0x11D50, 0x11DA0, 0x11F50, 0x16130, 0x16A60, 0x16AC0, 0x16B50, 0x16D70,
   0x1CCF0, 0x1D7CE, 0x1D7D8, 0x1D7E2, 0x1D7EC, 0x1D7F6, 0x1E140, 0x1E2F0,
   0x1E4F0, 0x1E5F1, 0x1E950, 0x1FBF0]

/-- A decimal digit of some script: the Unicode general category Nd. -/
def isDecimalDigit (character : Char) : Bool :=
  character.isDigit ||
    digitZeros.any fun start => start ≤ character.toNat && character.toNat ≤ start + 9

/-- The ASCII digits are decimal digits. -/
theorem isDecimalDigit_of_isDigit {character : Char}
    (digit : character.isDigit = true) :
    isDecimalDigit character = true := by
  simp [isDecimalDigit, digit]

namespace Text

/-- The longest run of decimal digits at the front of a text. -/
def digits (text : Text) : Text :=
  text.takeWhile isDecimalDigit

/-- What follows the digit run at the front of a text. -/
def afterDigits (text : Text) : Text :=
  text.dropWhile isDecimalDigit

/-- The digit run and what follows it make up the text. -/
theorem digits_append_afterDigits (text : Text) :
    digits text ++ afterDigits text = text :=
  List.takeWhile_append_dropWhile

/-- The number that a list of ASCII digits writes, most significant first. -/
def digitsValue (run : Text) : Nat :=
  run.foldl (fun value digit => value * 10 + (digit.toNat - '0'.toNat)) 0

/-- Read a text of ASCII digits only, at least one, as a number below a limit. -/
def toNatBelow? (limit : Nat) (run : Text) : Option Nat :=
  if run ≠ [] ∧ run.all Char.isDigit ∧ digitsValue run < limit then
    some (digitsValue run)
  else
    none

end Text

/-- The numbers that fit in a 64-bit word are below this one. -/
def wordLimit : Nat := Nat.pow 2 64

end AtomicCss
