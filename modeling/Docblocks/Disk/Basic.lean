import Docblocks.Disk.Path
import Docblocks.Number.Digits
import Docblocks.Text.Utf8

/-!
A disk: files and folders by the component names that lead to them from the root, and what the
system lets this program do with them.

A path is followed component by component from the root or from the current folder; every component
but the last has to be a folder that may be searched, and a double dot leads to the folder above.
What becomes of a file while it is written is not settled by the disk.
-/

set_option autoImplicit false
set_option relaxedAutoImplicit false

namespace Docblocks

open Docblocks.Number (natText)

/-- Bytes of a file. -/
abbrev Bytes := List UInt8

namespace Disk

/-- The names that lead from the root to a place. -/
abbrev Place := List Text

/-- What stands at a place. -/
inductive Entry
  | file (bytes : Bytes)
  | folder
  deriving DecidableEq, Repr

/-- An error of the operating system: its number and its wording, and whether the path is told with
it, as it is where a file could not be opened. -/
structure Errno where
  code : Nat
  wording : Text
  named : Bool := true
  deriving DecidableEq, Repr

/-- The error of a file or a folder that this program has no permission for. -/
def Errno.denied : Errno where
  code := 13
  wording := "Permission denied".points

/-- The message of an error at a path. -/
def Errno.message (e : Errno) (path : Path) : Text :=
  "[Errno ".points ++ natText e.code ++ "] ".points ++ e.wording ++
    if e.named then ": ".points ++ Text.quoted path.written else []

/-- What the system lets this program do with what stands at a place: search a folder, write a file,
and read it, unless it answers with an error. -/
structure Mode where
  searchable : Bool := true
  writable : Bool := true
  unreadable? : Option Errno := none
  deriving DecidableEq, Repr

/-- Why a path does not lead to what is wanted. -/
inductive Cause
  | missing
  | notFolder
  | isFolder
  | nameTooLong
  | system (error : Errno)
  | nulInName
  | unencodable (fault : Text.Utf8.LoneHalves)
  deriving DecidableEq, Repr

/-- Whether the system refuses a path, which it does not come to see if its name is no name. -/
def Cause.isOfSystem : Cause → Bool
  | .nulInName => false
  | .unencodable _ => false
  | _ => true

/-- Whether a path leads to nothing. -/
def Cause.isMissing : Cause → Bool
  | .missing => true
  | .system e => e.code = 2
  | _ => false

/-- A path that does not lead to what is wanted. -/
structure Fault where
  cause : Cause
  path : Path
  deriving DecidableEq, Repr

/-- The wording of a path fault. -/
def Fault.message (f : Fault) : Text :=
  let named (t : String) : Text := t.points ++ Text.quoted f.path.written
  match f.cause with
  | .missing => named "[Errno 2] No such file or directory: "
  | .notFolder => named "[Errno 20] Not a directory: "
  | .isFolder => named "[Errno 21] Is a directory: "
  | .nameTooLong => named "[Errno 36] File name too long: "
  | .system e => e.message f.path
  | .nulInName => "embedded null byte".points
  | .unencodable halves => halves.message

end Disk

/-- Files and folders, the current folder, and the modes of the places that have another than the
usual one. -/
structure Disk where
  entries : List (Disk.Place × Disk.Entry)
  here : Disk.Place
  modes : List (Disk.Place × Disk.Mode) := []
  deriving DecidableEq, Repr

namespace Disk

/-- What stands at a place; the root is always a folder. -/
def entry? (d : Disk) (p : Place) : Option Entry :=
  if p.isEmpty then some .folder else d.entries.lookup p

/-- The mode of a place. -/
def mode (d : Disk) (p : Place) : Mode :=
  (d.modes.lookup p).getD {}

/-- The longest name of a file or folder, in bytes. -/
def longestName : Nat := 255

/-- The longest path, in bytes. -/
def longestPath : Nat := 4095

/-- Whether a text has more bytes than a number. -/
def isLonger (t : Text) (most : Nat) : Bool :=
  match Text.Utf8.nameBytes t with
  | .ok bytes => most < bytes.length
  | .error _ => false

/-- Follows components from a place. -/
def follow (d : Disk) : Place → List Text → Except Cause Place
  | p, [] => .ok p
  | p, name :: rest =>
    match d.entry? p with
    | some .folder =>
      if !(d.mode p).searchable then .error (.system .denied)
      else if name = "..".points then d.follow p.dropLast rest
      else if isLonger name longestName then .error .nameTooLong
      else if (d.entry? (p ++ [name])).isSome then d.follow (p ++ [name]) rest
      else .error .missing
    | some (.file _) => .error .notFolder
    | none => .error .missing

/-- The place to which a path leads. -/
def resolve (d : Disk) (p : Path) : Except Cause Place :=
  match Text.Utf8.nameBytes p.written with
  | .error f => .error (.unencodable f)
  | .ok bytes =>
    if p.hasNul then .error .nulInName
    else if longestPath < bytes.length then .error .nameTooLong
    else d.follow (if p.anchor = .here then d.here else []) p.parts

/-- The place of the file to which a path leads, if there is one; only a name that is too long and a
folder that may not be searched are faults here. -/
def file? (d : Disk) (p : Path) : Except Fault (Option Place) :=
  match d.resolve p with
  | .error .nameTooLong => .error ⟨.nameTooLong, p⟩
  | .error (.system e) => .error ⟨.system e, p⟩
  | .error _ => .ok none
  | .ok place =>
    match d.entry? place with
    | some (.file _) => .ok (some place)
    | _ => .ok none

/-- The bytes of the file to which a path leads. -/
def read (d : Disk) (p : Path) : Except Fault Bytes :=
  match d.resolve p with
  | .error c => .error ⟨c, p⟩
  | .ok place =>
    match d.entry? place with
    | some (.file bytes) =>
      match (d.mode place).unreadable? with
      | none => .ok bytes
      | some e => .error ⟨.system e, p⟩
    | _ => .error ⟨.isFolder, p⟩

/-- Changes the bytes of the file at a place. -/
def write (d : Disk) (place : Place) (bytes : Bytes) : Disk :=
  { d with entries := d.entries.map fun e => if e.1 = place then (e.1, .file bytes) else e }

/-- Leaves the file at a place with other bytes, if there are any, else as it is. -/
def leave (d : Disk) (place : Place) : Option Bytes → Disk
  | some bytes => d.write place bytes
  | none => d

/-- Puts an entry at a place, whatever was there before. -/
def put (d : Disk) (place : Place) (e : Entry) : Disk :=
  { d with entries := (d.entries.filter fun x => x.1 != place) ++ [(place, e)] }

/-- Puts a folder at a place unless something stands there. -/
def ensureFolder (d : Disk) (place : Place) : Disk :=
  if (d.entry? place).isSome then d else d.put place .folder

/-- Follows components from a place, making the folders that are missing. -/
def makeFolders (d : Disk) : Place → List Text → Disk × Place
  | p, [] => (d.ensureFolder p, p)
  | p, name :: rest =>
    let d := d.ensureFolder p
    if name = "..".points then d.makeFolders p.dropLast rest else d.makeFolders (p ++ [name]) rest

/-- Puts an entry at a path, with the folders above it. -/
def install (d : Disk) (p : Path) (e : Entry) : Disk :=
  let start := if p.anchor = .here then d.here else []
  let r := d.makeFolders start p.parent.parts
  match p.parts.getLast? with
  | some name => r.1.put (r.2 ++ [name]) e
  | none => r.1

/-- Gives a mode to the place to which a path leads. -/
def chmod (d : Disk) (p : Path) (m : Mode) : Disk :=
  match d.resolve p with
  | .ok place => { d with modes := (place, m) :: d.modes }
  | .error _ => d

/-- Removes what stands at a path. -/
def remove (d : Disk) (p : Path) : Disk :=
  match d.resolve p with
  | .ok place => { d with entries := d.entries.filter fun x => !place.isPrefixOf x.1 }
  | .error _ => d

end Disk
end Docblocks
