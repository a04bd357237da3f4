import Docblocks.Fault

/-!
What a run reports: for each class whether its file was updated or unchanged, why it was skipped, or
how it failed; and the warnings and notices on the way.
-/

set_option autoImplicit false
set_option relaxedAutoImplicit false

namespace Docblocks

/-- Why a class was passed over. -/
inductive Skip
  | notAllowed
  | noWritableFile
  | noPayload
  | anchorMissing
  deriving DecidableEq, Repr

/-- The name of a reason in reports. -/
def Skip.name : Skip → Text
  | .notAllowed => "not_allowed".points
  | .noWritableFile => "no_writable_file".points
  | .noPayload => "no_payload".points
  | .anchorMissing => "anchor_not_found".points

/-- The record of a run, each list in the order of the classes. -/
structure Report where
  updated : List Text := []
  unchanged : List Text := []
  skipped : List (Text × Skip) := []
  errors : List (Text × Fault) := []
  deriving Repr

/-- A run passes when no class failed. -/
def Report.passed (r : Report) : Bool :=
  r.errors.isEmpty

/-- A file with one kind of marker only, and the class above which a block was to be put. -/
structure Warning where
  path : Disk.Path
  className : Text
  deriving DecidableEq, Repr

/-- The wording of a warning. -/
def Warning.message (w : Warning) : Text :=
  w.path.written ++
    " has only one generated-block marker; inserted a new block above ".points ++ w.className

/-- What was done to the file of a class. -/
inductive Deed
  | annotated
  | stripped
  deriving DecidableEq, Repr

/-- The word for a deed. -/
def Deed.name : Deed → Text
  | .annotated => "Annotated".points
  | .stripped => "Stripped".points

/-- The news that the file of a class was written. -/
structure Notice where
  className : Text
  deed : Deed
  deriving DecidableEq, Repr

/-- The wording of a notice. -/
def Notice.message (n : Notice) : Text :=
  n.className ++ " ".points ++ n.deed.name

end Docblocks
