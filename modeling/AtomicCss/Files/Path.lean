import AtomicCss.Text.Basic

/-!
Contract: paths as they are written.

Owns:
- the names in a path and the ways a path can end;
- the path of a file below a directory, and of the directory of a file;
- the extension of a file name.

Does not own: what stands at a path.
-/

namespace AtomicCss.Path

/-- The pieces of a path between its slashes. -/
def pieces (path : Text) : List Text :=
  Text.split '/' path

/-- A piece that leads nowhere: an empty one, or a dot. -/
def isIdle (piece : Text) : Bool :=
  piece = [] || piece = ['.']

/-- The name of the directory that holds a directory. -/
def up : Text :=
  ['.', '.']

/-- The names of a path that lead somewhere. -/
def names (path : Text) : List Text :=
  (pieces path).filter fun piece => !isIdle piece

/-- A path that ends in an idle piece can lead to a directory only. -/
def endsIdle (path : Text) : Bool :=
  (pieces path).getLast?.any isIdle

/-- The name that a path ends with, slashes after it left aside.  A path that ends
with a dot or with a step up ends with no name: only a directory is found there. -/
def fileName? (path : Text) : Option Text :=
  ((pieces path).reverse.find? (· ≠ [])).filter fun piece =>
    piece ≠ ['.'] && piece ≠ up

/-- A path that starts with a slash does not depend on the current directory. -/
def isAbsolute (path : Text) : Bool :=
  Text.startsWith ['/'] path

/-- Pieces without the idle ones at their end. -/
def withoutIdleEnd (written : List Text) : List Text :=
  (written.reverse.dropWhile isIdle).reverse

/-- The path of the directory that holds a file, as it is written, if the path names
one. -/
def parent? (path : Text) : Option Text :=
  let written := withoutIdleEnd (withoutIdleEnd (pieces path)).dropLast
  if written ≠ [] then
    some (Text.join '/' written)
  else if isAbsolute path then
    some ['/']
  else
    none

/-- The path of a file below a directory, by the names that lead to it. -/
def below (directory : Text) (descent : List Text) : Text :=
  if directory.getLast? = some '/' then
    directory ++ Text.join '/' descent
  else
    directory ++ '/' :: Text.join '/' descent

/-- The extension of a file name: what follows its last dot, if something comes
before that dot. -/
def extension? (name : Text) : Option Text :=
  match Text.split '.' name with
  | [] | [_] => none
  | [[], _] => none
  | pieces => if name = up then none else pieces.getLast?

end AtomicCss.Path
