import Docblocks.Command.Execute

/-!
The paths that a command line may look at: the two documents first, then the files of the classes
that the manifest lists.
-/

set_option autoImplicit false
set_option relaxedAutoImplicit false

namespace Docblocks.Command

open Docblocks.Schema (Descriptor)

/-- The paths of the settings and the manifest. -/
def Invocation.documents (i : Invocation) (env : Environment) : List Disk.Path :=
  [pathOr i.sources.settings? env.settingsPath, pathOr i.sources.manifest? env.manifestPath]

/-- The paths of the files of some classes. -/
def classPaths (classes : List Descriptor) : List Disk.Path :=
  classes.filterMap Descriptor.file?

/-- The paths of the class files, once the manifest is on the disk. -/
def Invocation.classFiles (i : Invocation) (env : Environment) (disk : Disk) : List Disk.Path :=
  match loadManifest env disk i.sources.manifest? with
  | .ok classes => classPaths classes
  | .error _ => []

end Docblocks.Command
