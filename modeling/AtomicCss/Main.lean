import AtomicCss.CommandLine.Run

/-!
Contract: the program on a real machine.

Owns:
- the files, the clock and the random digits of the machine;
- what is written to the outputs, and the status of the process.

Does not own: anything that is decided.
-/

namespace AtomicCss.Machine

/-- The reason of an error of the machine. -/
def fault : IO.Error → FileFault
  | .noFileOrDirectory .. => .notFound
  | .alreadyExists .. => .alreadyExists
  | .inappropriateType _ 20 _ => .notDirectory
  | .inappropriateType _ 21 _ => .isDirectory
  | failure => .other (toString failure).toList

/-- The result of an operation, or the reason why the machine refused it. -/
def attempt {α : Type} (operation : IO α) : IO (Except FileFault α) := do
  match ← operation.toBaseIO with
  | .ok result => return .ok result
  | .error failure => return .error (fault failure)

/-- What stands at a path, if it is a file or a directory. -/
def kind? (path : Text) : IO (Option PlaceKind) := do
  let found ← attempt do
    return (← (← IO.FS.realPath (String.ofList path)).metadata).type
  match found with
  | .ok .file => return some .file
  | .ok .dir => return some .directory
  | _ => return none

/-- The files below an entry of a directory, which is a file itself or a directory. -/
partial def filesOf (deep : Bool) (entry : IO.FS.DirEntry) : IO (List (List Text)) := do
  let name := entry.fileName.toList
  match (← entry.path.symlinkMetadata).type with
  | .file => return [[name]]
  | .dir =>
      if deep then
        let inside ← (← entry.path.readDir).toList.mapM (filesOf deep)
        return inside.flatten.map (name :: ·)
      else
        return []
  | _ => return []

/-- The files below a directory. -/
def filesBelow (deep : Bool) (path : Text) : IO (List (List Text)) := do
  let entries ← (← IO.FS.realPath (String.ofList path)).readDir
  return (← entries.toList.mapM (filesOf deep)).flatten

/-- The text of a file. -/
def read (path : Text) : IO (Except FileFault Text) := do
  if (← kind? path) = some .directory then
    return .error .isDirectory
  match ← attempt (IO.FS.readBinFile (String.ofList path)) with
  | .error reason => return .error reason
  | .ok bytes =>
      match String.fromUTF8? bytes with
      | some text => return .ok text.toList
      | none => return .error .notText

/-- The machine as a host, since a moment of its clock. -/
def host (start : Nat) : Host IO where
  kind? := kind?
  filesBelow := filesBelow
  read := read
  write path text := attempt (IO.FS.writeFile (String.ofList path) (String.ofList text))
  makeDirectories path := attempt (IO.FS.createDirAll (String.ofList path))
  elapsed := return (← IO.monoMsNow) - start

/-- The readings of the machine.  The present is the time at which a new file is
made. -/
def ambient : IO Ambient := do
  let time ← IO.FS.withTempFile fun _ path => return (← path.metadata).modified
  let digits := Text.ofNat (← IO.rand 0 999999)
  return {
    now := time.sec * 1000 + (time.nsec.toNat / 1000000 : Nat)
    viewport := none
    randomDigits := List.replicate (6 - digits.length) '0' ++ digits }

end AtomicCss.Machine

/-- Run the program on the arguments of the process. -/
def main (arguments : List String) : IO UInt32 := do
  let start ← IO.monoMsNow
  let outcome ← AtomicCss.CommandLine.run (AtomicCss.Machine.host start)
    (← AtomicCss.Machine.ambient) (arguments.map String.toList)
  for line in outcome.shown do
    IO.println (String.ofList line)
  for line in outcome.complaints do
    IO.eprintln (String.ofList line)
  return outcome.status.toUInt32
