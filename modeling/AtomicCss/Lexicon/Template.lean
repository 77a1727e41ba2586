import AtomicCss.Grammar
import AtomicCss.Text.DecimalDigit

/-!
Contract: blueprints with numbered placeholders.

Owns:
- the placeholder indices of a blueprint and the number of arguments it takes;
- filling in arguments;
- the shapes of a text that a filled-in blueprint can have.

Does not own: the tables of blueprints.
-/

namespace AtomicCss

/-- A text with placeholders `§0`, `§1` and so on. -/
structure Template where
  blueprint : Text
deriving DecidableEq, Repr

namespace Template

/-- The indices of the placeholders in a text.  An index is a run of digits that
reads as a 64-bit word. -/
def indices : Text → List Nat
  | [] => []
  | character :: rest =>
      match Text.toNatBelow? wordLimit (Text.digits rest) with
      | some index =>
          if character = Grammar.placeholder then index :: indices rest else indices rest
      | none => indices rest

/-- The number of arguments that a blueprint takes, one more than its greatest
index.  It is a 64-bit word, so after the greatest index of all it is zero. -/
def arity (template : Template) : Nat :=
  match (indices template.blueprint).max? with
  | none => 0
  | some greatest => (greatest + 1) % wordLimit

/-- Put an argument in for every placeholder of one index. -/
def fill (text : Text) (index : Nat) (argument : Text) : Text :=
  Text.replace Grammar.placeholder (Text.ofNat index) argument text

/-- Fill in arguments, the one with the greatest index first, so that the
placeholder of a short index never takes the front of a longer one for its own.
A placeholder without an argument stays in place. -/
def substitute (template : Template) (arguments : List Text) : Text :=
  arguments.zipIdx.foldr
    (fun argument text => fill text argument.2 argument.1) template.blueprint

/-- A class of its own rather than CSS. -/
def isClass (text : Text) : Bool :=
  Text.startsWith Grammar.scheme text

/-- A list of declarations rather than a value. -/
def isDeclarations (text : Text) : Bool :=
  text.contains ';'

end Template

end AtomicCss
