import AtomicCss.Error

/-!
Contract: what a command asks of the machine that it runs on.

Owns: the operations on files and on the clock, over any monad.

Does not own: any machine.
-/

namespace AtomicCss

/-- What can stand at a path. -/
inductive PlaceKind where
  | file
  | directory
deriving DecidableEq, Repr

/-- The operations of a machine.  A path is followed from the current directory. -/
structure Host (m : Type → Type) where
  /-- What stands at a path. -/
  kind? : Text → m (Option PlaceKind)
  /-- The files of a directory, each by the names that lead to it, in any order.
  Those of the directories inside are among them when asked for. -/
  filesBelow : (deep : Bool) → Text → m (List (List Text))
  /-- The text of a file. -/
  read : Text → m (Except FileFault Text)
  /-- Write a file in place of what was there. -/
  write : Text → Text → m (Except FileFault Unit)
  /-- Make a directory, and those that hold it, unless it is there. -/
  makeDirectories : Text → m (Except FileFault Unit)
  /-- The milliseconds since the command was started. -/
  elapsed : m Nat

end AtomicCss
