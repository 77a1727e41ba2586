import AtomicCss.Grammar
import AtomicCss.OrderedMap
import AtomicCss.Text.Blank

/-!
Contract: the class names in a text.

Owns:
- where a class name can begin and which characters it can have;
- the distinct class names of a text, in the order in which they are found.

Does not own: the reading of class names and of files.
-/

namespace AtomicCss.Scan

/-- Blanks, quotes and the backtick come before class names and never in them. -/
def isBoundary (character : Char) : Bool :=
  isBlank character || character = '"' || character = '\'' || character = '\x60'

/-- The characters that class names are made of. -/
def isNameCharacter (character : Char) : Bool :=
  !isBoundary character && character ≠ '<' && character ≠ '>'

/-- The class name at the front of a text: the scheme and at least one character
more, as many as there are. -/
def nameAt? (text : Text) : Option Text :=
  (Text.after? Grammar.scheme text).bind fun rest =>
    let run := rest.takeWhile isNameCharacter
    if run = [] then none else some (Grammar.scheme ++ run)

/-- The class names in a text.  The flag tells that one can begin at the front of
the text. -/
def namesFrom : Bool → Text → List Text
  | _, [] => []
  | atBoundary, character :: rest =>
      let others := namesFrom (isBoundary character) rest
      if atBoundary then
        match nameAt? (character :: rest) with
        | some name => name :: others
        | none => others
      else
        others

/-- The distinct class names of a text, in the order of first occurrence. -/
def classNames (text : Text) : List Text :=
  (OrderedSet.ofList (namesFrom true text)).members

end AtomicCss.Scan
