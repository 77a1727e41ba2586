import AtomicCss.Error

/-!
Contract: what is reported on the side while class names are read.

Owns: the notices, how grave each is, and its text.

Does not own: where notices go.
-/

namespace AtomicCss

/-- Something worth reporting that stops nothing. -/
inductive Notice where
  /-- An expansion reached its ceiling for the first time. -/
  | ceilingReached (ceiling : Nat) (className : Text)
  /-- A template asked for more tokens than a 64-bit position can count. -/
  | outOfRange (className : Text)
  /-- A class name could not be read. -/
  | classRejected (failure : Failure)
  /-- A source could not be read. -/
  | sourceSkipped (source reason : Text)
deriving DecidableEq, Repr

/-- How grave a notice is. -/
inductive Notice.Level where
  | warning
  | error
deriving DecidableEq, Repr

namespace Notice

/-- How grave each notice is. -/
def level : Notice → Level
  | .ceilingReached .. | .sourceSkipped .. => .warning
  | .outOfRange .. | .classRejected .. => .error

/-- The text of a notice. -/
def message : Notice → Text
  | .ceilingReached ceiling className =>
      "Max template recursion depth (".toList ++ Text.ofNat ceiling ++
        ") exceeded for class \"".toList ++ className ++
        "\". Aborting template expansion.".toList
  | .outOfRange className => "Template arguments out of range in ".toList ++ className
  | .classRejected failure => failure.message
  | .sourceSkipped source reason =>
      "Skipping unreadable source ".toList ++ source ++ ": ".toList ++ reason

end Notice

end AtomicCss
