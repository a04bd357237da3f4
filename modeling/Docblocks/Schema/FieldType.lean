import Docblocks.Text.Blank

/-!
The scalar type that a database field has in code.
-/

set_option autoImplicit false
set_option relaxedAutoImplicit false

namespace Docblocks.Schema

/-- A scalar type of the documented code. -/
inductive ScalarType
  | boolean
  | float
  | int
  | string
  deriving DecidableEq, Repr

/-- The name of a scalar type in a tag. -/
def ScalarType.name : ScalarType → Text
  | .boolean => "boolean".points
  | .float => "float".points
  | .int => "int".points
  | .string => "string".points

/-- The field types that are not strings. -/
def fieldTypes : List (Text × ScalarType) :=
  [("Boolean".points, .boolean), ("Currency".points, .float), ("Decimal".points, .float),
    ("Double".points, .float), ("Float".points, .float), ("ForeignKey".points, .int),
    ("Int".points, .int), ("Percentage".points, .float)]

/-- The name of a field type without its arguments. -/
def baseName (fieldType : Text) : Text :=
  Text.trim (fieldType.takeWhile (· != .char '('))

/-- The scalar type of a field type such as `Varchar(255)`; an unknown one is a string. -/
def scalarType (fieldType : Text) : ScalarType :=
  (fieldTypes.lookup (baseName fieldType)).getD .string

end Docblocks.Schema
