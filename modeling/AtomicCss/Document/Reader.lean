import AtomicCss.Text.Basic

/-!
Contract: reading a notation from the front of a text.

Owns:
- readers, which take something off the front of a text or fail;
- single characters, runs, expected texts and hexadecimal numbers;
- characters that are written as the number of their code point.

Does not own: any notation.
-/

namespace AtomicCss

/-- Takes something off the front of a text, or fails. -/
abbrev Reader := StateT Text Option

namespace Reader

/-- The next character, not taken. -/
def peek? : Reader (Option Char) :=
  return (← get).head?

/-- Take one character. -/
def next : Reader Char := do
  match ← get with
  | [] => failure
  | character :: rest => do
      set rest
      return character

/-- Take one character with a property. -/
def one (accepts : Char → Bool) : Reader Char := do
  let character ← next
  guard (accepts character)
  return character

/-- Take the longest run of characters with a property. -/
def takeWhile (accepts : Char → Bool) : Reader Text := do
  let text ← get
  set (text.dropWhile accepts)
  return text.takeWhile accepts

/-- Take a given text if it is next.  The answer tells whether it was. -/
def accept (expected : Text) : Reader Bool := do
  match Text.after? expected (← get) with
  | some rest => do
      set rest
      return true
  | none => return false

/-- Take a given text, which has to be next. -/
def expect (expected : Text) : Reader Unit := do
  guard (← accept expected)

/-- Nothing is left to take. -/
def isDone : Reader Bool :=
  return (← get).isEmpty

/-- What a reader makes of a whole text. -/
def readAll? {α : Type} (reader : Reader α) (text : Text) : Option α :=
  (StateT.run reader text).bind fun (value, rest) => if rest = [] then some value else none

/-! ## Numbers of code points -/

/-- The value of a hexadecimal digit. -/
def hexDigit? (character : Char) : Option Nat :=
  if character.isDigit then
    some (character.toNat - '0'.toNat)
  else if 'a' ≤ character ∧ character ≤ 'f' then
    some (character.toNat - 'a'.toNat + 10)
  else if 'A' ≤ character ∧ character ≤ 'F' then
    some (character.toNat - 'A'.toNat + 10)
  else
    none

/-- Take a number of hexadecimal digits. -/
def hexNumber : Nat → Reader Nat
  | 0 => return 0
  | count + 1 => do
      let leading ← hexNumber count
      match hexDigit? (← next) with
      | some digit => return leading * 16 + digit
      | none => failure

/-- The character of a code point, unless the number is none or is reserved for
pairs of 16-bit units. -/
def character? (code : Nat) : Option Char :=
  if code.isValidChar then some (Char.ofNat code) else none

end Reader

end AtomicCss
