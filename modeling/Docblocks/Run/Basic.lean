import Docblocks.Block.Strip
import Docblocks.Permission
import Docblocks.Run.World

/-!
Runs over the classes of a manifest.

A class is looked up, permitted and resolved to its file; its block is put in or its markers are
stripped; and the file is written only when its text changes. In a batch the failure of one class
through its markers or its file is recorded, and the batch goes on.
-/

set_option autoImplicit false
set_option relaxedAutoImplicit false

namespace Docblocks

open Docblocks.Schema (Descriptor)

/-- What a run works with. -/
structure Run where
  settings : Settings
  classes : List Descriptor
  payload : Descriptor → Except Schema.TagFault Text := Schema.payload
  dryRun : Bool := false
  force : Bool := false
  notifies : Bool := true
  device : Disk.Device := {}

/-- The file of a class that may be rewritten. -/
structure Target where
  descriptor : Descriptor
  path : Disk.Path
  place : Disk.Place

/-- The file of a class, if it is there and may be written; an abstract class has none. -/
def Disk.classFile? (disk : Disk) (d : Descriptor) :
    Except Disk.Fault (Option (Disk.Path × Disk.Place)) :=
  match d.abstract, d.file? with
  | false, some path =>
    (disk.file? path).map fun place? =>
      (place?.filter fun place => (disk.mode place).writable).map fun place => (path, place)
  | _, _ => .ok none

namespace Run

/-- Batches run when generation is switched on or forced. -/
def enabled (r : Run) : Bool :=
  r.settings.enabled || r.force

/-- All entities, then all extensions. -/
def worklist (r : Run) : List Descriptor :=
  Schema.entities r.classes ++ Schema.extensions r.classes

/-- The file of a class of this name, or why it is passed over. -/
def target (r : Run) (disk : Disk) (name : Text) : Except Fault (Except Skip Target) :=
  if r.settings.allowsClass r.classes name then
    match Schema.lastNamed? r.classes name with
    | none => .ok (.error .notAllowed)
    | some d =>
      match disk.classFile? d with
      | .error f => .error (.disk f)
      | .ok none => .ok (.error .noWritableFile)
      | .ok (some (path, place)) => .ok (.ok ⟨d, path, place⟩)
  else .ok (.error .notAllowed)

/-- The text of the file of a class. -/
def source (disk : Disk) (t : Target) : Except Fault Text :=
  match disk.read t.path with
  | .error f => .error (.disk f)
  | .ok bytes =>
    match Text.Utf8.decode bytes with
    | .error f => .error (.undecodable f)
    | .ok cs => .ok (Text.ofChars cs)

/-- What the payload of a class does to a text. -/
def upsert (r : Run) (name : Text) (d : Descriptor) (text : Text) : Except Fault Block.Outcome :=
  match r.payload d with
  | .error f => .error (.tags f)
  | .ok payload =>
    match Block.upsert text name payload with
    | .error f => .error (.block f)
    | .ok o => .ok o

/-- Records that a text was written, and sends the news of it. -/
def conclude (r : Run) (deed : Deed) (name : Text) (w : World) : World :=
  (if r.notifies then w.notify ⟨name, deed⟩ else w).update name

/-- Writes a text that differs from the current one, unless the run is dry, and records it. -/
def persist (r : Run) (deed : Deed) (name : Text) (t : Target) (current candidate : Text)
    (w : World) : Except Fault Bool × World :=
  match Block.change? current (some candidate) with
  | none => (.ok true, w.keep name)
  | some text =>
    if r.dryRun then (.ok true, w.update name)
    else
      match w.write r.device t.path t.place text with
      | (.ok _, w) => (.ok true, r.conclude deed name w)
      | (.error f, w) => (.error f, w)

/-- Records the outcome of an upsert; a lone marker is warned of first. -/
def settle (r : Run) (name : Text) (t : Target) (current : Text) (o : Block.Outcome)
    (w : World) : Except Fault Bool × World :=
  let w := if o.lone then w.warn ⟨t.path, name⟩ else w
  match o with
  | .noPayload => (.ok true, w.skip name .noPayload)
  | .anchorMissing _ => (.ok true, w.skip name .anchorMissing)
  | .replaced text => r.persist .annotated name t current text w
  | .inserted text _ => r.persist .annotated name t current text w

/-- Generates the block of one class; false when it is not allowed or has no file. -/
def annotateClass (r : Run) (name : Text) (w : World) : Except Fault Bool × World :=
  match r.target w.disk name with
  | .error f => (.error f, w)
  | .ok (.error s) => (.ok false, w.skip name s)
  | .ok (.ok t) =>
    match source w.disk t with
    | .error f => (.error f, w)
    | .ok text =>
      match r.upsert name t.descriptor text with
      | .error f => (.error f, w)
      | .ok o => r.settle name t text o w

/-- Strips the markers of one class; false when it is not allowed or has no file. -/
def stripClass (r : Run) (name : Text) (w : World) : Except Fault Bool × World :=
  match r.target w.disk name with
  | .error f => (.error f, w)
  | .ok (.error s) => (.ok false, w.skip name s)
  | .ok (.ok t) =>
    match source w.disk t with
    | .error f => (.error f, w)
    | .ok text => r.persist .stripped name t text (Block.strip text) w

/-- Faults of markers and files concern one class and are recorded in its place. -/
def contains : Fault → Bool
  | .block _ => true
  | .disk f => f.cause.isOfSystem
  | .unwritten _ _ => true
  | .tags (.other contained _) => contained
  | _ => false

/-- Generates the blocks of some classes, one after another. -/
def annotateEach (r : Run) : List Descriptor → World → Except Fault Unit × World
  | [], w => (.ok (), w)
  | d :: ds, w =>
    match r.annotateClass d.name w with
    | (.ok _, w) => r.annotateEach ds w
    | (.error f, w) =>
      if contains f then r.annotateEach ds (w.fail d.name f) else (.error f, w)

/-- Generates the blocks of the whole worklist. -/
def batch (r : Run) (w : World) : Except Fault Bool × World :=
  match r.annotateEach r.worklist w with
  | (.ok _, w) => (.ok true, w)
  | (.error f, w) => (.error f, w)

/-- Generates all blocks; false when generation is off. -/
def annotateAll (r : Run) (w : World) : Except Fault Bool × World :=
  if r.enabled then r.batch w else (.ok false, w)

/-- Generates all blocks if a module is allowed; false when it is not or generation is off. -/
def annotateModule (r : Run) (module : Text) (w : World) : Except Fault Bool × World :=
  if r.enabled && r.settings.allowsModule module then r.batch w else (.ok false, w)

end Run
end Docblocks
