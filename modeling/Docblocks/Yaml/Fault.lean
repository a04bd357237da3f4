import Docblocks.Calendar
import Docblocks.Text.Utf8

/-!
Why a YAML text has no value: it is malformed, its bytes are no characters, or one of its scalars is
not what its tag says.
-/

set_option autoImplicit false
set_option relaxedAutoImplicit false

namespace Docblocks.Yaml

/-- Why a YAML text has no value. -/
inductive Fault
  | malformed
  | undecodable (fault : Text.Utf8.Fault)
  | codePointRange
  | codePointOverflow
  | notInteger (base : Nat) (text : Text)
  | tooLong (fault : Number.TooLong)
  | notFloat (text : Text)
  | floatOverflow
  | emptyNumber
  | notTruth (text : Text)
  | notTimestamp
  | timestampNotScalar
  | calendar (fault : Calendar.Fault)
  | endless
  deriving DecidableEq, Repr

/-- The number of code points of a quoted text that a complaint shows. -/
def shownLength : Nat := 200

/-- The wording of a fault. -/
def Fault.message : Fault → Text
  | .malformed => "malformed document".points
  | .undecodable f => f.message
  | .codePointRange => "chr() arg not in range(0x110000)".points
  | .codePointOverflow => "Python int too large to convert to C int".points
  | .notInteger base t =>
    "invalid literal for int() with base ".points ++ Number.natText base ++ ": ".points ++
      (Text.quoted t).take shownLength
  | .tooLong f => f.message
  | .notFloat t => "could not convert string to float: ".points ++ Text.quoted t
  | .floatOverflow => "int too large to convert to float".points
  | .emptyNumber => "string index out of range".points
  | .notTruth t => Text.quoted t
  | .notTimestamp => "not a timestamp".points
  | .timestampNotScalar => "timestamp is not a scalar".points
  | .calendar f => f.message
  | .endless => "maximum recursion depth exceeded".points

end Docblocks.Yaml
