import Docblocks.Disk.Path

/-!
Where the settings and the manifest are, by the environment of a run.
-/

set_option autoImplicit false
set_option relaxedAutoImplicit false

namespace Docblocks

/-- The variables that a run looks at, and the current folder. -/
structure Environment where
  root? : Option Text := none
  settings? : Option Text := none
  manifest? : Option Text := none
  here : Disk.Path := ⟨.root, []⟩
  deriving DecidableEq, Repr

namespace Environment

/-- The root of the project: the variable if it is set, else the current folder. -/
def root (e : Environment) : Disk.Path :=
  match e.root? with
  | some t => Disk.Path.ofText t
  | none => e.here

/-- A file of the project: the variable if it is set and not empty, else the usual name below the
root. -/
def locate (e : Environment) (given? : Option Text) (name : String) : Disk.Path :=
  match given? with
  | some (c :: t) => Disk.Path.ofText (c :: t)
  | _ => e.root.join (Disk.Path.ofText name.points)

/-- The path of the settings. -/
def settingsPath (e : Environment) : Disk.Path :=
  e.locate e.settings? "annotator.yaml"

/-- The path of the manifest. -/
def manifestPath (e : Environment) : Disk.Path :=
  e.locate e.manifest? "annotator-manifest.yaml"

end Environment
end Docblocks
