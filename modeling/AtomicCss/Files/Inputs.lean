import AtomicCss.Files.Host
import AtomicCss.Files.Path

/-!
Contract: from the paths that a user gives to the files that are read.

Owns:
- the extensions of the files that a directory contributes;
- the files that paths stand for, in the order in which they are read.

Does not own: reading the files.
-/

namespace AtomicCss.Inputs

/-- The extensions that count when none are configured. -/
def standardExtensions : List Text :=
  ["html", "htm", "js", "jsx", "ts", "tsx", "vue", "svelte", "php", "md"].map String.toList

/-- Two texts agree but for the case of ASCII letters. -/
def sameButForCase (first second : Text) : Bool :=
  first.map Char.toLower = second.map Char.toLower

/-- A file name has one of the given extensions. -/
def hasExtension (extensions : List Text) (name : Text) : Bool :=
  (Path.extension? name).any fun extension =>
    extensions.any fun wanted => sameButForCase wanted extension

/-- The paths of those files of a directory that have one of the extensions.  They
are sorted by the names that lead to them, so that what a directory holds comes at
the place of its name. -/
def ofDirectory (extensions : List Text) (directory : Text) (files : List (List Text)) :
    List Text :=
  let chosen := files.filter fun descent => descent.getLast?.any (hasExtension extensions)
  (chosen.mergeSort fun first second => (compare first second).isLE).map
    (Path.below directory)

variable {m : Type → Type} [Monad m]

/-- The files that one path stands for.  A file stands for itself. -/
def ofPath (host : Host m) (deep : Bool) (extensions : List Text) (path : Text) :
    m (Except Failure (List Text)) := do
  match ← host.kind? path with
  | none => return .error (.fileNotFound path)
  | some .file => return .ok [path]
  | some .directory => return .ok (ofDirectory extensions path (← host.filesBelow deep path))

/-- The files that paths stand for, as often as they are given.  The first path at
which nothing stands is a failure. -/
def ofPaths (host : Host m) (deep : Bool) (extensions : List Text) :
    List Text → m (Except Failure (List Text))
  | [] => return .ok []
  | path :: others => do
      match ← ofPath host deep extensions path with
      | .error failure => return .error failure
      | .ok files =>
          let rest ← ofPaths host deep extensions others
          return rest.map (files ++ ·)

end AtomicCss.Inputs
