import AtomicCss.Grammar

/-!
Contract: the kinds of parts that a class name is made of.

Owns: the kinds, and the marker that tells the kind of a part.

Does not own: what a part of each kind contributes.
-/

namespace AtomicCss

/-- What a part of a class name is. -/
inductive PartKind where
  | mediaQuery
  | containerQuery
  | keyframes
  | fontFace
  | target
  | customProperty
  | rootValue
  | template
  /-- A property with a value. -/
  | declaration
deriving DecidableEq, Repr

namespace PartKind

/-- The markers of the kinds.  Of two that start a part the earlier counts. -/
def markers : List (Text × PartKind) :=
  [(Grammar.mediaQuery, .mediaQuery),
   (Grammar.containerQuery, .containerQuery),
   (Grammar.keyframes, .keyframes),
   (Grammar.fontFace, .fontFace),
   (Grammar.target, .target),
   (Grammar.customProperty, .customProperty),
   (Grammar.rootValue, .rootValue),
   (Grammar.template, .template)]

/-- The kind of a part.  A part without a marker declares a property. -/
def classify (part : Text) : PartKind :=
  match markers.find? fun entry => Text.startsWith entry.1 part with
  | some entry => entry.2
  | none => .declaration

end PartKind

end AtomicCss
