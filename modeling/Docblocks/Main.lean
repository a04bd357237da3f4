import Docblocks.Command.Consulted

/-!
The program: it copies the files that a command line may look at, carries the command line out on
the copy, writes the files that it changes, and prints what it says.

Whether a file can be written is known only when it is tried. So the command line is carried out
again with the answers of the machine so far, until all that it writes has been tried: a write that
fails is then in the report, and the classes behind it find the files as they are.
-/

set_option autoImplicit false
set_option relaxedAutoImplicit false

namespace Docblocks.Program

/-- The number and the wording of an exception, which tells the path or not. -/
def errnoOf (named : Bool) : IO.Error → Disk.Errno
  | .alreadyExists _ code wording => ⟨code.toNat, wording.points, named⟩
  | .otherError code wording => ⟨code.toNat, wording.points, named⟩
  | .resourceBusy code wording => ⟨code.toNat, wording.points, named⟩
  | .resourceVanished code wording => ⟨code.toNat, wording.points, named⟩
  | .unsupportedOperation code wording => ⟨code.toNat, wording.points, named⟩
  | .hardwareFault code wording => ⟨code.toNat, wording.points, named⟩
  | .unsatisfiedConstraints code wording => ⟨code.toNat, wording.points, named⟩
  | .illegalOperation code wording => ⟨code.toNat, wording.points, named⟩
  | .protocolError code wording => ⟨code.toNat, wording.points, named⟩
  | .timeExpired code wording => ⟨code.toNat, wording.points, named⟩
  | .interrupted _ code wording => ⟨code.toNat, wording.points, named⟩
  | .noFileOrDirectory _ code wording => ⟨code.toNat, wording.points, named⟩
  | .invalidArgument _ code wording => ⟨code.toNat, wording.points, named⟩
  | .permissionDenied _ code wording => ⟨code.toNat, wording.points, named⟩
  | .resourceExhausted _ code wording => ⟨code.toNat, wording.points, named⟩
  | .inappropriateType _ code wording => ⟨code.toNat, wording.points, named⟩
  | .noSuchThing _ code wording => ⟨code.toNat, wording.points, named⟩
  | e => ⟨5, e.toString.points, named⟩

/-- Whether there is something at a path of the machine. -/
def stands (name : String) : IO Bool := do
  try
    discard (IO.FS.realPath name)
    return true
  catch _ => return false

/-- Whether the file at a path of the machine may be written. -/
def mayWrite (name : String) : IO Bool := do
  try
    discard (IO.FS.Handle.mk name .append)
    return true
  catch _ => return false

/-- What stands at a path of the machine, if anything, with its mode; a path that is closed to this
program counts as a folder above it that may not be searched. -/
def fetch (path : Disk.Path) : IO (Option (Disk.Path × Disk.Entry × Disk.Mode)) := do
  let name := Text.asString path.written
  try
    let bytes ← IO.FS.readBinFile name
    return some (path, .file bytes.toList, { writable := ← mayWrite name })
  catch
    | .inappropriateType .. => return some (path, .folder, {})
    | e =>
      if ← stands name then
        let mode := { writable := ← mayWrite name, unreadable? := some (errnoOf true e) }
        return some (path, .file [], mode)
      match e with
      | .permissionDenied .. => return some (path.parent, .folder, { searchable := false })
      | _ => return none

/-- Copies what stands at some paths to a disk. -/
def gather (disk : Disk) (paths : List Disk.Path) : IO Disk :=
  paths.foldlM (fun d p => do
    match ← fetch p with
    | some (p, e, mode) => return (d.install p e).chmod p mode
    | none => return d) disk

/-- The environment of this process. -/
def environment : IO Environment := do
  let look (name : String) : IO (Option Text) := return (← IO.getEnv name).map String.points
  return {
    root? := ← look "ORM_ANNOTATOR_ROOT"
    settings? := ← look "ORM_ANNOTATOR_CONFIG"
    manifest? := ← look "ORM_ANNOTATOR_MANIFEST"
    here := Disk.Path.ofText (← IO.currentDir).toString.points }

/-- The files and folders that a command line may look at. -/
def snapshot (words : List Text) (env : Environment) : IO Disk := do
  let disk : Disk := { entries := [], here := env.here.parts }
  let disk := (disk.makeFolders [] env.here.parts).1
  match Command.Invocation.read words with
  | .error _ => return disk
  | .ok i =>
    let disk ← gather disk (i.documents env)
    gather disk (i.classFiles env disk)

/-- The number of bytes in the file at a path of the machine. -/
def size (name : String) : IO Nat := do
  try
    return (← IO.FS.readBinFile name).size
  catch _ => return 0

/-- Stores bytes in a file that was opened; its answer if it does not store them all. -/
def store (name : String) (file : IO.FS.Handle) (bytes : Bytes) :
    IO (Option (Disk.Errno × Option Nat)) := do
  try
    file.write ⟨bytes.toArray⟩
    file.flush
    return none
  catch e => return some (errnoOf false e, some (← size name))

/-- Writes bytes to the file at a place of the machine; its answer if it does not store them all. -/
def overwrite (place : Disk.Place) (bytes : Bytes) : IO (Option (Disk.Errno × Option Nat)) := do
  let name := Text.asString (Disk.Path.written ⟨.root, place⟩)
  try
    store name (← IO.FS.Handle.mk name .write) bytes
  catch e => return some (errnoOf true e, none)

/-- Makes edits on the machine up to the first one that fails, and gives its answers. -/
def storeEach : Disk.Edits → IO (List (Option (Disk.Errno × Option Nat)))
  | (place, some bytes) :: rest => do
    match ← overwrite place bytes with
    | none => return none :: (← storeEach rest)
    | some answer => return [some answer]
  | (_, none) :: rest => return none :: (← storeEach rest)
  | [] => return []

/-- Carries out a command line on a copy of the machine, and its edits on the machine itself. -/
def carryOut (words : List Text) (env : Environment) (disk : Disk) : IO Command.Ended := do
  let mut answers := []
  let mut e := Command.execute words env disk
  while answers.length < e.world.edits.length do
    answers := answers ++ (← storeEach (e.world.edits.drop answers.length))
    e := Command.execute words env disk (.replaying answers)
  return e

/-- Carries out a command line. -/
def run (words : List Text) : IO UInt32 := do
  let env ← environment
  let e ← carryOut words env (← snapshot words env)
  IO.print (Text.asString e.stdout)
  e.world.warnings.forM fun w => IO.eprintln (Text.asString w.message)
  IO.eprint (Text.asString e.stderr)
  match e.exit with
  | .ok code => return code.toUInt32
  | .error f =>
    IO.eprintln (Text.asString f.message)
    return 1

end Docblocks.Program

/-- Runs the program on the words of its command line. -/
def main (args : List String) : IO UInt32 :=
  Docblocks.Program.run (args.map String.points)
