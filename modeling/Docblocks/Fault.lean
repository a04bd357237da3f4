import Docblocks.Block.Upsert
import Docblocks.Disk.Basic
import Docblocks.Manifest.Document
import Docblocks.Schema.Tags
import Docblocks.Settings.Document
import Docblocks.Yaml.Fault

/-!
Everything that can go wrong in a run, by its cause.
-/

set_option autoImplicit false
set_option relaxedAutoImplicit false

namespace Docblocks

/-- Why a run, or a step of it, fails. -/
inductive Fault
  | block (fault : Block.Fault)
  | disk (fault : Disk.Fault)
  | undecodable (fault : Text.Utf8.Fault)
  | unencodable (fault : Text.Utf8.LoneHalves)
  | unwritten (path : Disk.Path) (error : Disk.Errno)
  | yaml (fault : Yaml.Fault)
  | settings (fault : Settings.Fault)
  | manifest (fault : Manifest.Fault)
  | tags (fault : Schema.TagFault)
  | unnamed
  deriving DecidableEq, Repr

namespace Fault

/-- The wording of a fault. -/
def message : Fault → Text
  | .block f => f.message
  | .disk f => f.message
  | .undecodable f => f.message
  | .unencodable f => f.message
  | .unwritten path e => e.message path
  | .yaml f => f.message
  | .settings f => f.message
  | .manifest f => f.message
  | .tags .fieldTypeNotText => "field type is not a text".points
  | .tags .fieldTypeBytes => "field type is not a text".points
  | .tags .ownerNotText => "owner is not a text".points
  | .tags (.number f) => f.message
  | .tags (.other _ wording) => wording
  | .unnamed => "class has no name".points

/-- Whether a file is missing. -/
def isMissing : Fault → Bool
  | .disk f => f.cause.isMissing
  | .unwritten _ e => e.code = 2
  | _ => false

end Fault
end Docblocks
