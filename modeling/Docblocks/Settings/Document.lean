import Docblocks.Settings.Basic
import Docblocks.Disk.Path
import Docblocks.Value.Written

/-!
Settings from the value of their document.
-/

set_option autoImplicit false
set_option relaxedAutoImplicit false

namespace Docblocks.Settings

/-- Why a document holds no settings. -/
inductive Fault
  | notMapping (path : Disk.Path)
  | notList (key : Text) (path : Disk.Path) (typeName : Text)
  | number (fault : Number.TooLong)
  deriving DecidableEq, Repr

/-- The wording of a settings fault. -/
def Fault.message : Fault → Text
  | .notMapping p => "Config at ".points ++ p.written ++ " is not a YAML mapping".points
  | .notList key p typeName =>
    "'".points ++ key ++ "' in ".points ++ p.written ++ " must be a list, got ".points ++ typeName
  | .number f => f.message

/-- A list of names; a missing or null one is the usual one, an empty one counts. -/
def nameList (path : Disk.Path) (t : Table) (key : String) (usual : List Text) :
    Except Fault (List Text) :=
  match (t.field? key).map Value.unfolded with
  | none => .ok usual
  | some .null => .ok usual
  | some (.list vs) => (Value.writtenAll vs).mapError .number
  | some v => .error (.notList key.points path v.typeName)

/-- The settings of a mapping. -/
def ofTable (path : Disk.Path) (t : Table) : Except Fault Settings := do
  let usual : Settings := {}
  let modules ← nameList path t "enabled_modules" usual.enabledModules
  let classes ← nameList path t "disabled_classes" usual.disabledClasses
  return {
    enabled := (t.field? "enabled").any Value.holds
    enabledModules := modules
    disabledClasses := classes }

/-- The settings of a document; an empty one gives the usual settings. -/
def ofValue (path : Disk.Path) (v : Value) : Except Fault Settings :=
  match v.unfolded with
  | .null => .ok {}
  | .map t => ofTable path t
  | _ => .error (.notMapping path)

end Docblocks.Settings
