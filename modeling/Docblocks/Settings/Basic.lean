import Docblocks.Text.Point

/-!
The settings of a project: whether generation is on, and for which modules and classes.
-/

set_option autoImplicit false
set_option relaxedAutoImplicit false

namespace Docblocks

/-- Which modules and classes may be rewritten; generation is off unless it is switched on. -/
structure Settings where
  enabled : Bool := false
  enabledModules : List Text := ["mysite".points]
  disabledClasses : List Text := []
  deriving DecidableEq, Repr

end Docblocks
