import AtomicCss.Document.Basic
import AtomicCss.Document.Reader

/-!
Contract: documents in JSON.

Owns:
- reading a text as one value, with nothing but blanks around it;
- writing a value on lines of its own, the names of every table in order.

Does not own: which values settings take.
-/

namespace AtomicCss.Json

/-! ## Strings -/

/-- What a string is made of: characters, and code units that are written as
numbers. -/
inductive StringItem where
  | character (value : Char)
  | unit (code : Nat)
deriving DecidableEq, Repr

/-- The short escapes, each with the character that it stands for. -/
def shortEscapes : List (Char × Char) :=
  [('"', '"'), ('\\', '\\'), ('/', '/'), ('b', '\x08'), ('f', '\x0c'), ('n', '\n'),
   ('r', '\r'), ('t', '\t')]

/-- The item that an escape stands for, after its backslash. -/
def escape : Reader StringItem := do
  let mark ← Reader.next
  if mark = 'u' then
    return .unit (← Reader.hexNumber 4)
  else
    match shortEscapes.lookup mark with
    | some character => return .character character
    | none => failure

/-- The items of a string after its opening quote, through its closing quote. -/
def stringItems : Nat → Reader (List StringItem)
  | 0 => failure
  | steps + 1 => do
      let character ← Reader.next
      if character = '"' then
        return []
      else if character = '\\' then
        let first ← escape
        return first :: (← stringItems steps)
      else
        guard (' ' ≤ character)
        return .character character :: (← stringItems steps)

/-- A code unit that a pair starts with. -/
def isHigh (code : Nat) : Bool :=
  0xD800 ≤ code && code < 0xDC00

/-- A code unit that a pair ends with. -/
def isLow (code : Nat) : Bool :=
  0xDC00 ≤ code && code < 0xE000

/-- The code point of a pair of code units. -/
def pairCode (high low : Nat) : Nat :=
  0x10000 + (high - 0xD800) * 0x400 + (low - 0xDC00)

/-- The text of a string.  There is none when half of a pair stands alone. -/
def textOf? : List StringItem → Option Text
  | [] => some []
  | .character value :: rest => (textOf? rest).map (value :: ·)
  | .unit high :: .unit low :: rest =>
      if isHigh high && isLow low then
        (textOf? rest).map (Char.ofNat (pairCode high low) :: ·)
      else
        (Reader.character? high).bind fun first =>
          (textOf? (.unit low :: rest)).map (first :: ·)
  | .unit code :: rest =>
      (Reader.character? code).bind fun first => (textOf? rest).map (first :: ·)

/-- A string from its opening quote, with its text if it has one. -/
def string : Reader (Option Text) := do
  Reader.expect ['"']
  return textOf? (← stringItems (← get).length)

/-! ## Numbers -/

/-- Digits, at least one. -/
def digits : Reader Text := do
  let run ← Reader.takeWhile Char.isDigit
  guard (run ≠ [])
  return run

/-- The digits before the point, of which the first is a zero only when it is the
only one. -/
def wholeDigits : Reader Text := do
  let run ← digits
  guard (run.head? ≠ some '0' ∨ run.length = 1)
  return run

/-- The part after the point, if there is one. -/
def fraction : Reader Bool := do
  if ← Reader.accept ['.'] then
    let _ ← digits
    return true
  else
    return false

/-- The exponent, if there is one. -/
def exponent : Reader Bool := do
  if (← Reader.accept ['e']) || (← Reader.accept ['E']) then
    unless ← Reader.accept ['+'] do
      let _ ← Reader.accept ['-']
    let _ ← digits
    return true
  else
    return false

/-- A whole number is an integer when it fits in 64 bits; zero with a sign is not. -/
def integerOf (negative : Bool) (size : Nat) : Document :=
  if negative then
    if 0 < size ∧ size ≤ Nat.pow 2 63 then .integer (-size) else .other
  else
    if size < Nat.pow 2 64 then .integer size else .other

/-- A number. -/
def number : Reader Document := do
  let negative ← Reader.accept ['-']
  let whole ← wholeDigits
  let broken ← fraction
  let scaled ← exponent
  if broken || scaled then
    return .other
  else
    return integerOf negative (whole.foldl (fun size digit =>
      size * 10 + (digit.toNat - '0'.toNat)) 0)

/-! ## Values -/

/-- The characters that can stand between values. -/
def isBlank (character : Char) : Bool :=
  character = ' ' || character = '\n' || character = '\t' || character = '\r'

/-- Take blanks. -/
def blanks : Reader Unit := do
  let _ ← Reader.takeWhile isBlank

/-- A value that is written as a word. -/
def word : Reader Document := do
  if ← Reader.accept "null".toList then return .null
  else if ← Reader.accept "true".toList then return .flag true
  else if ← Reader.accept "false".toList then return .flag false
  else failure

/-- A table, unless a name in it has no text. -/
def tableOf (entries : List (Option Text × Document)) : Document :=
  match entries.mapM fun entry => entry.1.map fun name => (name, entry.2) with
  | some named => .table named
  | none => .other

mutual

/-- A value after any blanks.  It takes no more steps than the text is long. -/
def value : Nat → Reader Document
  | 0 => failure
  | steps + 1 => do
      blanks
      match ← Reader.peek? with
      | some '"' => return ((← string).map Document.text).getD .other
      | some '[' =>
          let _ ← Reader.next
          blanks
          if ← Reader.accept [']'] then return .list []
          else return .list (← items steps)
      | some '\x7b' =>
          let _ ← Reader.next
          blanks
          if ← Reader.accept ['\x7d'] then return .table []
          else return tableOf (← entries steps)
      | some character =>
          if character = '-' || character.isDigit then number else word
      | none => failure

/-- The items of a list, through its closing bracket. -/
def items : Nat → Reader (List Document)
  | 0 => failure
  | steps + 1 => do
      let first ← value steps
      blanks
      if ← Reader.accept [','] then
        return first :: (← items steps)
      else
        Reader.expect [']']
        return [first]

/-- The entries of a table, through its closing brace. -/
def entries : Nat → Reader (List (Option Text × Document))
  | 0 => failure
  | steps + 1 => do
      blanks
      let name ← string
      blanks
      Reader.expect [':']
      let first ← value steps
      blanks
      if ← Reader.accept [','] then
        return (name, first) :: (← entries steps)
      else
        Reader.expect ['\x7d']
        return [(name, first)]

end

/-- A list that is read as a record has no more items than the record has fields. -/
def surplus : Surplus := .refused

/-- Read a text as one value. -/
def read? (text : Text) : Option Document :=
  Reader.readAll? (value (text.length + 1) <* blanks) text

/-! ## Writing -/

/-- The short escape of a character, if it has one. -/
def shortEscape? (character : Char) : Option Char :=
  if character = '/' then none
  else (shortEscapes.find? fun entry => entry.2 = character).map Prod.fst

/-- A character within quotes.  Control characters are written as numbers. -/
def writeCharacter (character : Char) : Text :=
  match shortEscape? character with
  | some mark => ['\\', mark]
  | none =>
      if character < ' ' then
        "\\u00".toList ++ (if character.toNat < 16 then ['0'] else []) ++
          Nat.toDigits 16 character.toNat
      else
        [character]

/-- A text as a string. -/
def writeText (text : Text) : Text :=
  Text.quoted (text.flatMap writeCharacter)

/-- The start of a line at a depth. -/
def newLine (depth : Nat) : Text :=
  '\n' :: List.replicate (2 * depth) ' '

/-- Written items between brackets, each on a line of its own. -/
def writeBlock (opening closing : Char) (depth : Nat) (written : List Text) : Text :=
  if written = [] then
    [opening, closing]
  else
    opening :: List.intercalate [','] (written.map (newLine (depth + 1) ++ ·)) ++
      newLine depth ++ [closing]

mutual

/-- A value at a depth. -/
def writeAt (depth : Nat) : Document → Text
  | .null | .other => "null".toList
  | .flag value => (toString value).toList
  | .integer value => Text.ofInt value
  | .text value | .moment value => writeText value
  | .list items => writeBlock '[' ']' depth (writeItems (depth + 1) items)
  | .table entries =>
      let sorted := (writeEntries (depth + 1) entries).mergeSort fun first second =>
        (compare first.1 second.1).isLE
      writeBlock '\x7b' '\x7d' depth
        (sorted.map fun entry => writeText entry.1 ++ ": ".toList ++ entry.2)

/-- The values of a list at a depth. -/
def writeItems (depth : Nat) : List Document → List Text
  | [] => []
  | item :: others => writeAt depth item :: writeItems depth others

/-- The values of a table at a depth, with their names. -/
def writeEntries (depth : Nat) : List (Text × Document) → List (Text × Text)
  | [] => []
  | (name, value) :: others => (name, writeAt depth value) :: writeEntries depth others

end

/-- A value on as many lines as it has parts. -/
def write (value : Document) : Text :=
  writeAt 0 value

end AtomicCss.Json
