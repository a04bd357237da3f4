/-!
Texts are lists of code points, so that positions, lengths and widths count code points.

A code point is a character or one half of a surrogate pair. No file holds a half, but an escape may
name one; two halves in a row stay two code points.
-/

set_option autoImplicit false
set_option relaxedAutoImplicit false

namespace Docblocks

/-- A code point: a character, or the half of a surrogate pair with the given number. -/
inductive Point
  | char (c : Char)
  | half (n : Fin 2048)
  deriving DecidableEq, Repr, Inhabited

/-- Text as the list of its code points. -/
abbrev Text := List Point

instance : Coe Char Point := ⟨Point.char⟩

namespace Point

/-- The number of a code point. -/
def code : Point → Nat
  | .char c => c.toNat
  | .half n => 0xD800 + n.val

/-- The code point of a number below `0x110000`. -/
def ofCode (n : Nat) : Point :=
  if h : 0xD800 ≤ n ∧ n - 0xD800 < 2048 then .half ⟨n - 0xD800, h.2⟩ else .char (Char.ofNat n)

/-- Whether a code point is a half of a surrogate pair. -/
def isHalf : Point → Bool
  | .char _ => false
  | .half _ => true

/-- Whether a code point is an ASCII digit. -/
def isDigit : Point → Bool
  | .char c => c.isDigit
  | .half _ => false

/-- The character of a code point; a half has the replacement character. -/
def toChar : Point → Char
  | .char c => c
  | .half _ => '\uFFFD'

/-- A code point is the one of its number. -/
theorem ofCode_code (p : Point) : ofCode p.code = p := by
  cases p with
  | char c =>
    have h : ¬(0xD800 ≤ c.toNat ∧ c.toNat - 0xD800 < 2048) := by
      have hv : c.toNat.isValidChar := c.valid
      simp only [Nat.isValidChar] at hv
      omega
    simp [ofCode, code, h]
  | half n =>
    have hn := n.isLt
    simp [ofCode, code, hn]

end Point

namespace Text

/-- The text of some characters. -/
def ofChars (cs : List Char) : Text := cs.map Point.char

/-- The string of a text, without halves of surrogate pairs. -/
def asString (t : Text) : String := String.ofList (t.map Point.toChar)

/-- A text without the line feed at its end, if there is one. -/
def dropFinalBreak (t : Text) : Text :=
  if t.getLast? = some (Point.char '\n') then t.dropLast else t

end Text
end Docblocks

/-- The text of a string. -/
def String.points (s : String) : Docblocks.Text := Docblocks.Text.ofChars s.toList
