import AtomicCss.Document.Reader
import AtomicCss.Document.Toml.Scalar
import AtomicCss.Document.Toml.Table

/-!
Contract: documents in TOML.

Owns:
- strings, lists, tables within braces, and names;
- the lines of a file;
- reading a text as one document.

Does not own: which values settings take.
-/

namespace AtomicCss.Toml

/-! ## Blanks and lines -/

/-- A blank within a line. -/
def isBlank (character : Char) : Bool :=
  character = ' ' || character = '\t'

/-- A character of a comment or a string: no control character but the tab. -/
def isPrintable (character : Char) : Bool :=
  character = '\t' || (' ' ≤ character && character ≠ '\x7f')

/-- Take blanks. -/
def blanks : Reader Unit := do
  let _ ← Reader.takeWhile isBlank

/-- Take the end of a line, if it is next. -/
def lineEnd : Reader Bool := do
  if ← Reader.accept ['\n'] then return true
  else Reader.accept ['\r', '\n']

/-- Take a comment, if one is next. -/
def comment : Reader Unit := do
  if ← Reader.accept ['#'] then
    let _ ← Reader.takeWhile isPrintable

/-- Take what may follow on a line, and the end of the line or of the text. -/
def restOfLine : Reader Unit := do
  blanks
  comment
  unless ← lineEnd do
    guard (← Reader.isDone)

/-- Take blanks, comments and line ends. -/
def gap : Nat → Reader Unit
  | 0 => return ()
  | steps + 1 => do
      blanks
      comment
      if ← lineEnd then gap steps

/-! ## Strings -/

/-- The short escapes, each with the character that it stands for. -/
def shortEscapes : List (Char × Char) :=
  [('"', '"'), ('\\', '\\'), ('b', '\x08'), ('f', '\x0c'), ('n', '\n'), ('r', '\r'),
   ('t', '\t')]

/-- The character of a code point with a number of digits. -/
def escapedCode (count : Nat) : Reader Char := do
  match Reader.character? (← Reader.hexNumber count) with
  | some character => return character
  | none => failure

/-- The character that an escape stands for, after its backslash. -/
def escape : Reader Char := do
  let mark ← Reader.next
  if mark = 'u' then escapedCode 4
  else if mark = 'U' then escapedCode 8
  else
    match shortEscapes.lookup mark with
    | some character => return character
    | none => failure

/-- The rest of a string on one line, through its closing quote. -/
def basicRest : Nat → Reader Text
  | 0 => failure
  | steps + 1 => do
      let character ← Reader.next
      if character = '"' then
        return []
      else if character = '\\' then
        let first ← escape
        return first :: (← basicRest steps)
      else
        guard (isPrintable character)
        return character :: (← basicRest steps)

/-- The rest of a literal string on one line, through its closing quote. -/
def literalRest : Reader Text := do
  let run ← Reader.takeWhile fun character => isPrintable character && character ≠ '\''
  Reader.expect ['\'']
  return run

/-- Take blanks and line ends. -/
def emptyLines : Nat → Reader Unit
  | 0 => return ()
  | steps + 1 => do
      blanks
      if ← lineEnd then emptyLines steps

/-- Take the end of a line that a backslash joins to the next text, if blanks lead
to one. -/
def lineJoin : Reader Bool := do
  let start ← get
  blanks
  if ← lineEnd then
    emptyLines (← get).length
    return true
  else
    set start
    return false

/-- Take quotes that may close a string over several lines: fewer than three are part
of it, three close it, and of four or five the last three close it.  The answer tells
how many are part of it, and whether it is closed. -/
def quoteRun (quote : Char) : Reader (Nat × Bool) := do
  let text ← get
  let count := min 5 (text.takeWhile (· = quote)).length
  set (text.drop count)
  return if count < 3 then (count, false) else (count - 3, true)

/-- The rest of a string over several lines, through its closing quotes.  A literal
string has no escapes. -/
def linesRest (quote : Char) (literal : Bool) : Nat → Reader Text
  | 0 => failure
  | steps + 1 => do
      if (← Reader.peek?) = some quote then
        let (count, closed) ← quoteRun quote
        let quotes := List.replicate count quote
        if closed then return quotes
        else return quotes ++ (← linesRest quote literal steps)
      else if ← lineEnd then
        return '\n' :: (← linesRest quote literal steps)
      else
        let character ← Reader.next
        if character = '\\' && !literal then
          if ← lineJoin then
            linesRest quote literal steps
          else
            let first ← escape
            return first :: (← linesRest quote literal steps)
        else
          guard (isPrintable character)
          return character :: (← linesRest quote literal steps)

/-- A string on one line. -/
def lineString : Reader Text := do
  if ← Reader.accept ['"'] then basicRest (← get).length
  else
    Reader.expect ['\'']
    literalRest

/-- A string over several lines, after its opening quotes.  A line end right after
them does not count. -/
def linesString (quote : Char) : Reader Text := do
  let _ ← lineEnd
  linesRest quote (quote = '\'') (← get).length

/-- A string. -/
def string : Reader Text := do
  if ← Reader.accept ['"', '"', '"'] then linesString '"'
  else if ← Reader.accept ['\'', '\'', '\''] then linesString '\''
  else lineString

/-! ## Names -/

/-- A character of a name without quotes. -/
def isNameCharacter (character : Char) : Bool :=
  character.isAlphanum || character = '-' || character = '_'

/-- One name. -/
def name : Reader Text := do
  match ← Reader.peek? with
  | some '"' | some '\'' => lineString
  | _ =>
      let run ← Reader.takeWhile isNameCharacter
      guard (run ≠ [])
      return run

/-- Names with dots between them. -/
def dottedNames : Nat → Reader (List Text)
  | 0 => failure
  | steps + 1 => do
      blanks
      let first ← name
      blanks
      if ← Reader.accept ['.'] then return first :: (← dottedNames steps)
      else return [first]

/-- Values nest, and dotted names lead, at most this deep. -/
def deepest : Nat := 79

/-- Names with dots between them that lead no deeper than a file may go. -/
def path : Reader (List Text) := do
  let names ← dottedNames (← get).length
  guard (names.length ≤ deepest)
  return names

/-! ## Values -/

/-- A number, a word or a moment.  A blank may stand between a date and a time. -/
def scalar : Reader Document := do
  let first ← Reader.takeWhile isScalarCharacter
  let following ← get
  let timed := (date? first).isSome && following.head? = some ' ' &&
    following.tail.head?.any Char.isDigit
  let written ←
    if timed then
      let _ ← Reader.next
      pure (first ++ ' ' :: (← Reader.takeWhile isScalarCharacter))
    else
      pure first
  match scalar? written with
  | some document => return document
  | none => failure

mutual

/-- A value in which values can nest some levels deep.  It takes no more steps than
the text is long. -/
def value : (steps levels : Nat) → Reader Document
  | 0, _ => failure
  | steps + 1, levels => do
      match ← Reader.peek? with
      | some '"' | some '\'' => return .text (← string)
      | some '[' =>
          let _ ← Reader.next
          guard (0 < levels)
          return .list (← items steps (levels - 1))
      | some '\x7b' =>
          let _ ← Reader.next
          guard (0 < levels)
          blanks
          if ← Reader.accept ['\x7d'] then return .table []
          else return .table (documents (← pairs steps (levels - 1) []))
      | _ => scalar

/-- The items of a list, through its closing bracket. -/
def items : (steps levels : Nat) → Reader (List Document)
  | 0, _ => failure
  | steps + 1, levels => do
      gap (← get).length
      if ← Reader.accept [']'] then
        return []
      else
        let first ← value steps levels
        gap (← get).length
        if ← Reader.accept [','] then
          return first :: (← items steps levels)
        else
          Reader.expect [']']
          return [first]

/-- The entries of a table within braces, through the closing brace. -/
def pairs : (steps levels : Nat) → Entries → Reader Entries
  | 0, _, _ => failure
  | steps + 1, levels, entries => do
      let names ← path
      Reader.expect ['=']
      blanks
      let document ← value steps levels
      blanks
      let some extended := addUnder names document entries | failure
      if ← Reader.accept [','] then
        pairs steps levels extended
      else
        Reader.expect ['\x7d']
        return extended

end

/-! ## Files -/

/-- A file while it is read: its entries, and the names of the table that the last
header opened. -/
structure Progress where
  entries : Entries
  header : List Text

/-- A header after its opening bracket. -/
def header (progress : Progress) : Reader Progress := do
  let isElement ← Reader.accept ['[']
  let names ← path
  Reader.expect (if isElement then [']', ']'] else [']'])
  restOfLine
  let change (last : Text) : Option Entries :=
    within (if isElement then openElement last else openTable last) names.dropLast
      progress.entries
  match names.getLast?.bind change with
  | some entries => return ⟨entries, names⟩
  | none => failure

/-- A value under its names, on a line of its own. -/
def pair (progress : Progress) : Reader Progress := do
  let length := (← get).length
  let names ← path
  Reader.expect ['=']
  blanks
  let document ← value length deepest
  restOfLine
  match within (addUnder names document) progress.header progress.entries with
  | some entries => return { progress with entries := entries }
  | none => failure

/-- All lines of a file. -/
def fileLines : Nat → Progress → Reader Progress
  | 0, progress => return progress
  | steps + 1, progress => do
      gap (← get).length
      if ← Reader.isDone then
        return progress
      else if ← Reader.accept ['['] then
        fileLines steps (← header progress)
      else
        fileLines steps (← pair progress)

/-- Items of a list that is read as a record do not count after its last field. -/
def surplus : Surplus := .ignored

/-- Read a text as a file.  A byte order mark in front does not count. -/
def read? (text : Text) : Option Document :=
  let file : Reader Document := do
    let _ ← Reader.accept ['\ufeff']
    let progress ← fileLines (text.length + 1) ⟨[], []⟩
    return .table (documents progress.entries)
  Reader.readAll? file text

end AtomicCss.Toml
