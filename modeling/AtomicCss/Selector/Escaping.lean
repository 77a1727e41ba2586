import AtomicCss.Text.Basic

/-!
Contract: class names written as class selectors.

Owns:
- the characters that stand for themselves in a selector;
- the escaping of all others by a backslash;
- the class selector of a name.

Does not own: selectors built from target instructions.
-/

namespace AtomicCss.Selector

/-- ASCII letters and digits, the dash, the underscore and every character
outside ASCII stand for themselves. -/
def isPlain (character : Char) : Bool :=
  character.isAlphanum || character = '-' || character = '_' || character.toNat ≥ 128

/-- A backslash before every character that does not stand for itself. -/
def escape (name : Text) : Text :=
  name.flatMap fun character => if isPlain character then [character] else ['\\', character]

/-- The selector of the elements that carry a class name. -/
def ofClass (name : Text) : Text :=
  '.' :: escape name

@[simp] theorem escape_nil : escape [] = [] :=
  rfl

theorem escape_append (first second : Text) :
    escape (first ++ second) = escape first ++ escape second :=
  List.flatMap_append

end AtomicCss.Selector
