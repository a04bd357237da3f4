import Docblocks.Settings.Basic
import Docblocks.Schema.Descriptor

/-!
Which modules and classes may have their blocks generated.
-/

set_option autoImplicit false
set_option relaxedAutoImplicit false

namespace Docblocks

open Docblocks.Schema (Descriptor lastNamed?)

/-- A module is allowed when the settings list it. -/
def Settings.allowsModule (s : Settings) (module : Text) : Bool :=
  s.enabledModules.contains module

/-- A class is allowed when it is known, not disabled, and its module is allowed. -/
def Settings.allowsClass (s : Settings) (ds : List Descriptor) (name : Text) : Bool :=
  if s.disabledClasses.contains name then false
  else
    match lastNamed? ds name with
    | none => false
    | some d => s.allowsModule d.module

end Docblocks
