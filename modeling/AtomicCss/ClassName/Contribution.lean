import AtomicCss.ClassName.Keyframes
import AtomicCss.Selector.Escaping

/-!
Contract: what one class name contributes to a stylesheet.

Owns:
- declarations on the root element, and their CSS;
- the contribution of a class name, and the one that it starts with.

Does not own: how parts add to a contribution.
-/

namespace AtomicCss

/-- A custom property of the root element, with the class name that declares it. -/
structure RootDeclaration where
  name : Text
  value : Text
  className : Text
deriving DecidableEq, Repr

/-- A declaration on the root element in CSS. -/
def RootDeclaration.write (root : RootDeclaration) : Text :=
  ":root \x7b\n  --".toList ++ root.name ++ ": ".toList ++ root.value ++
    "; /* ".toList ++ root.className ++ " */\n\x7d".toList

/-- Everything that a class name contributes to a stylesheet. -/
structure Contribution where
  className : Text
  selector : Text
  declarations : List Text
  atRule : Option Text
  important : Bool
  keyframes : Option Keyframes
  fontFace : Option Text
  rootRules : List RootDeclaration
deriving DecidableEq, Repr

namespace Contribution

/-- A class name before any of its parts is read. -/
def start (className : Text) (important : Bool) : Contribution where
  className := className
  selector := Selector.ofClass className
  declarations := []
  atRule := none
  important := important
  keyframes := none
  fontFace := none
  rootRules := []

/-- There is something to put into a stylesheet. -/
def hasOutput (contribution : Contribution) : Bool :=
  !contribution.declarations.isEmpty || !contribution.rootRules.isEmpty ||
    contribution.keyframes.isSome || contribution.fontFace.isSome

/-- Add declarations after all others. -/
def declare (contribution : Contribution) (declarations : List Text) : Contribution :=
  { contribution with declarations := contribution.declarations ++ declarations }

/-- Add a declaration on the root element after all others. -/
def declareRoot (contribution : Contribution) (name value : Text) : Contribution :=
  { contribution with
    rootRules := contribution.rootRules ++ [⟨name, value, contribution.className⟩] }

end Contribution

end AtomicCss
