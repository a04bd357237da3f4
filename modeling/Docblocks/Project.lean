import Docblocks.Environment
import Docblocks.Fault
import Docblocks.Yaml.Document

/-!
Reading the settings and the manifest of a project from a disk.
-/

set_option autoImplicit false
set_option relaxedAutoImplicit false

namespace Docblocks

/-- The value of the document at a path. -/
def documentAt (disk : Disk) (path : Disk.Path) : Except Fault Value :=
  match disk.read path with
  | .error f => .error (.disk f)
  | .ok bytes => (Yaml.load bytes).mapError .yaml

/-- A path that is given, unless it is missing or empty. -/
def pathOr (given? : Option Text) (usual : Disk.Path) : Disk.Path :=
  match given? with
  | some (c :: t) => Disk.Path.ofText (c :: t)
  | _ => usual

/-- Reads the settings; without a file they are the usual ones. -/
def loadSettings (env : Environment) (disk : Disk) (path? : Option Text) :
    Except Fault Settings :=
  let path := pathOr path? env.settingsPath
  match disk.file? path with
  | .error f => .error (.disk f)
  | .ok none => .ok {}
  | .ok (some _) =>
    match documentAt disk path with
    | .error f => .error f
    | .ok v =>
      match Settings.ofValue path v with
      | .error f => .error (.settings f)
      | .ok s => .ok s

/-- Reads the classes of the manifest. -/
def loadManifest (env : Environment) (disk : Disk) (path? : Option Text) :
    Except Fault (List Schema.Descriptor) :=
  let path := pathOr path? env.manifestPath
  match documentAt disk path with
  | .error f => .error f
  | .ok v =>
    match Manifest.ofValue path v with
    | .error f => .error (.manifest f)
    | .ok ds => .ok ds

end Docblocks
