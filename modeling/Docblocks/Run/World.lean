import Docblocks.Disk.Device
import Docblocks.Run.Report

/-!
What a run changes: the disk, the report, and the traces that it leaves in order.
-/

set_option autoImplicit false
set_option relaxedAutoImplicit false

namespace Docblocks

/-- The disk with the report, warnings, notices and edits of a run so far, the oldest first. -/
structure World where
  disk : Disk
  report : Report := {}
  warnings : List Warning := []
  notices : List Notice := []
  edits : Disk.Edits := []
  deriving Repr

namespace World

/-- The places of the files that a run has set about to write. -/
def writes (w : World) : List Disk.Place :=
  w.edits.map Prod.fst

/-- Records that a class was passed over. -/
def skip (w : World) (name : Text) (s : Skip) : World :=
  { w with report := { w.report with skipped := w.report.skipped ++ [(name, s)] } }

/-- Records that a file would not change. -/
def keep (w : World) (name : Text) : World :=
  { w with report := { w.report with unchanged := w.report.unchanged ++ [name] } }

/-- Records that a file changes. -/
def update (w : World) (name : Text) : World :=
  { w with report := { w.report with updated := w.report.updated ++ [name] } }

/-- Records that a class failed. -/
def fail (w : World) (name : Text) (f : Fault) : World :=
  { w with report := { w.report with errors := w.report.errors ++ [(name, f)] } }

/-- Issues a warning. -/
def warn (w : World) (x : Warning) : World :=
  { w with warnings := w.warnings ++ [x] }

/-- Sends a notice. -/
def notify (w : World) (x : Notice) : World :=
  { w with notices := w.notices ++ [x] }

/-- Records an edit of the file at a place and makes it. -/
def edit (w : World) (place : Disk.Place) (left? : Option Bytes) : World :=
  { w with disk := w.disk.leave place left?, edits := w.edits ++ [(place, left?)] }

/-- Writes a text to the file at a place, as far as the device lets it. -/
def write (w : World) (v : Disk.Device) (path : Disk.Path) (place : Disk.Place) (t : Text) :
    Except Fault Unit × World :=
  let saved := v.save w.edits path place t
  (saved.1, w.edit place saved.2)

end World
end Docblocks
