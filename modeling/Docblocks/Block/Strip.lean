import Docblocks.Block.Marker

/-!
Removing the marker lines of a generated block, while its payload stays.
-/

set_option autoImplicit false
set_option relaxedAutoImplicit false

namespace Docblocks.Block

/-- A comment line that holds nothing but a marker. -/
def markerLine (marker : Text) : Text :=
  " * ".points ++ marker ++ "\n".points

/-- Deletes the lines of both markers; a text without both markers is kept as it is. -/
def strip (content : Text) : Text :=
  if (locate content).present then
    Text.eraseAll (markerLine endMarker) (Text.eraseAll (markerLine startMarker) content)
  else content

end Docblocks.Block
