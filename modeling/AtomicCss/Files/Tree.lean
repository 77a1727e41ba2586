import AtomicCss.Files.Host
import AtomicCss.Files.Path
import AtomicCss.OrderedMap

/-!
Contract: a machine that is nothing but a tree of files.

Owns:
- the tree and what stands at a place of it;
- following a path, with the reasons for which that can fail;
- reading, writing and making directories in the tree;
- the tree as a host.

Does not own: how files are made up of bytes.
-/

namespace AtomicCss

/-- What stands at a place of a tree. -/
inductive Node where
  /-- A file with its text, or with none when its bytes are no text. -/
  | file (text : Option Text)
  | directory
deriving DecidableEq, Repr

/-- The nodes of a tree by the names that lead to them.  The place that no names
lead to is the current directory; the steps up that begin a place lead to the
directories above it. -/
structure FileTree where
  nodes : OrderedMap (List Text) Node
deriving DecidableEq, Repr

namespace FileTree

/-- The tree without files. -/
def empty : FileTree :=
  ⟨.empty⟩

/-- The current directory, or one above it. -/
def isAbove (place : List Text) : Bool :=
  place.all (· = Path.up)

/-- The place of the directory that holds a place. -/
def holder (place : List Text) : List Text :=
  if isAbove place then place ++ [Path.up] else place.dropLast

/-- What stands at a place. -/
def node? (tree : FileTree) (place : List Text) : Option Node :=
  if isAbove place then some .directory else tree.nodes.get? place

/-- Put a node at a place. -/
def put (tree : FileTree) (place : List Text) (node : Node) : FileTree :=
  ⟨tree.nodes.insert place node⟩

/-- Put a directory at a place, and at all places on the way to it. -/
def addDirectory (tree : FileTree) (place : List Text) : FileTree :=
  (List.range place.length).foldl
    (fun tree count => tree.put (place.take (count + 1)) .directory) tree

/-- Put a file at a place, and directories at all places on the way to it. -/
def addFile (tree : FileTree) (place : List Text) (text : Option Text) : FileTree :=
  (tree.addDirectory place.dropLast).put place (.file text)

/-! ## Paths -/

/-- The longest file name that there can be, in bytes. -/
def longestName : Nat := 255

/-- A path has fewer bytes than this. -/
def pathLimit : Nat := 4096

/-- There is a directory at a place. -/
def checkDirectory (tree : FileTree) (place : List Text) : Except FileFault Unit :=
  match tree.node? place with
  | none => .error .notFound
  | some (.file _) => .error .notDirectory
  | some .directory => .ok ()

/-- Follow one name from a place.  The way leads through directories; nothing needs
to stand at its end. -/
def step (tree : FileTree) (place : List Text) (name : Text) :
    Except FileFault (List Text) := do
  tree.checkDirectory place
  if name = Path.up then
    .ok (holder place)
  else if longestName < Text.byteSize name then
    .error .nameTooLong
  else
    .ok (place ++ [name])

/-- Follow names from the current directory. -/
def follow (tree : FileTree) (names : List Text) : Except FileFault (List Text) :=
  names.foldlM tree.step []

/-- A path that can be followed at all. -/
def checkPath (path : Text) : Except FileFault Unit :=
  if path.contains '\x00' then
    .error .nulInName
  else if path = [] || Path.isAbsolute path then
    .error .notFound
  else if pathLimit ≤ Text.byteSize path then
    .error .nameTooLong
  else
    .ok ()

/-- The place that a path leads to, with what stands there. -/
def find (tree : FileTree) (path : Text) : Except FileFault (List Text × Node) := do
  checkPath path
  let place ← tree.follow (Path.names path)
  match tree.node? place with
  | none => .error .notFound
  | some (.file text) =>
      if Path.endsIdle path then .error .notDirectory else .ok (place, .file text)
  | some .directory => .ok (place, .directory)

/-! ## Operations -/

/-- What stands at a path. -/
def kind? (tree : FileTree) (path : Text) : Option PlaceKind :=
  match tree.find path with
  | .ok (_, .file _) => some .file
  | .ok (_, .directory) => some .directory
  | .error _ => none

/-- The files below a place, each by the names that lead from there to it. -/
def filesBelow (tree : FileTree) (deep : Bool) (path : Text) : List (List Text) :=
  match tree.find path with
  | .ok (place, .directory) =>
      tree.nodes.entries.filterMap fun entry =>
        match entry.2 with
        | .directory => none
        | .file _ =>
            let descent := entry.1.drop place.length
            if entry.1.take place.length = place && descent.head? ≠ some Path.up &&
                (deep || descent.length = 1) then
              some descent
            else
              none
  | _ => []

/-- The text of the file at a path. -/
def read (tree : FileTree) (path : Text) : Except FileFault Text := do
  match ← tree.find path with
  | (_, .directory) => .error .isDirectory
  | (_, .file none) => .error .notText
  | (_, .file (some text)) => .ok text

/-- Write a file at a path.  At a path that ends with no name, or with a slash, no
file can stand; the way there has to exist all the same. -/
def write (tree : FileTree) (path text : Text) : Except FileFault FileTree := do
  checkPath path
  match Path.fileName? path with
  | none =>
      let _ ← tree.find path
      .error .isDirectory
  | some name =>
      let directory ← tree.follow (Path.names path).dropLast
      if Path.endsIdle path then
        tree.checkDirectory directory
        .error .isDirectory
      else
        let place ← tree.step directory name
        if tree.node? place = some .directory then
          .error .isDirectory
        else
          .ok (tree.put place (.file (some text)))

/-- Make one directory at the end of given names. -/
def makeDirectory (tree : FileTree) (names : List Text) : Except FileFault FileTree := do
  let place ← tree.follow names
  if (tree.node? place).isSome then
    .error .alreadyExists
  else
    .ok (tree.put place .directory)

/-- The outcome of making a directory, given that it may be there already. -/
def orPresent (tree : FileTree) (names : List Text) :
    Except FileFault FileTree → Except FileFault FileTree
  | .ok made => .ok made
  | .error fault =>
      match (tree.follow names).map tree.node? with
      | .ok (some .directory) => .ok tree
      | _ => .error fault

/-- Make a directory and those that hold it.  The names are given from the last
to the first. -/
def makeAll (tree : FileTree) : List Text → Except FileFault FileTree
  | [] => .ok tree
  | name :: holders =>
      let names := (name :: holders).reverse
      match tree.makeDirectory names with
      | .error .notFound => do
          let held ← makeAll tree holders
          held.orPresent names (held.makeDirectory names)
      | outcome => tree.orPresent names outcome

/-- Make the directory at a path, and those that hold it, unless it is there. -/
def makeDirectories (tree : FileTree) (path : Text) : Except FileFault FileTree := do
  checkPath path
  tree.makeAll (Path.names path).reverse

/-! ## As a host -/

/-- Replace the tree when an operation succeeds. -/
def attempt (operation : FileTree → Except FileFault FileTree) :
    StateM FileTree (Except FileFault Unit) := fun tree =>
  match operation tree with
  | .ok changed => (.ok (), changed)
  | .error fault => (.error fault, tree)

/-- A machine on which no time passes and whose files are those of a tree. -/
def host : Host (StateM FileTree) where
  kind? path := fun tree => (tree.kind? path, tree)
  filesBelow deep path := fun tree => (tree.filesBelow deep path, tree)
  read path := fun tree => (tree.read path, tree)
  write path text := attempt fun tree => tree.write path text
  makeDirectories path := attempt fun tree => tree.makeDirectories path
  elapsed := fun tree => (0, tree)

end FileTree

end AtomicCss
