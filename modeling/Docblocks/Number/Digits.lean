import Docblocks.Text.Point

/-!
Whole numbers in decimal digits, of which neither reading nor writing takes more than a limit.
-/

set_option autoImplicit false
set_option relaxedAutoImplicit false

namespace Docblocks.Number

/-- The decimal digits of a natural number. -/
def natText (n : Nat) : Text := (toString n).points

/-- The decimal digits of an integer after its sign. -/
def intText (n : Int) : Text := (toString n).points

/-- The largest number of decimal digits of a whole number. -/
def digitLimit : Nat := 4300

/-- A whole number with too many digits, and how many there are if it was to be read. -/
structure TooLong where
  digits? : Option Nat
  deriving DecidableEq, Repr

/-- The wording of the limit. -/
def TooLong.message (f : TooLong) : Text :=
  "Exceeds the limit (".points ++ natText digitLimit ++
    " digits) for integer string conversion".points ++
    (match f.digits? with
      | some n => ": value has ".points ++ natText n ++ " digits".points
      | none => []) ++
    "; use sys.set_int_max_str_digits() to increase the limit".points

/-- An integer in decimal, if it is within the limit. -/
def intWritten (n : Int) : Except TooLong Text :=
  if digitLimit < (natText n.natAbs).length then .error ⟨none⟩ else .ok (intText n)

/-- A number of digits that are to be read, if it is within the limit. -/
def checkDigits (n : Nat) : Except TooLong Unit :=
  if digitLimit < n then .error ⟨some n⟩ else .ok ()

end Docblocks.Number
