import Docblocks.Text.Shown

/-!
Quoted texts: single quotes, unless the text holds one and no double quote; code points without a
shown form are written by their number. Quoted bytes follow the same rule after a mark.
-/

set_option autoImplicit false
set_option relaxedAutoImplicit false

namespace Docblocks.Text

/-- A number in lower-case hexadecimal with at least the given number of digits. -/
def hex (width n : Nat) : Text :=
  let ds := Nat.toDigits 16 n
  List.replicate (width - ds.length) (.char '0') ++ ofChars ds

/-- The quote that is put around a text. -/
def quoteFor (t : Text) : Point :=
  if t.contains (.char '\'') && !t.contains (.char '"') then .char '"' else .char '\''

/-- The escape of a code point that has a short one. -/
def shortEscape? (quote p : Point) : Option Text :=
  if p = quote || p = .char '\\' then some [.char '\\', p]
  else if p = .char '\n' then some "\\n".points
  else if p = .char '\r' then some "\\r".points
  else if p = .char '\t' then some "\\t".points
  else none

/-- The escape of a code point by its number. -/
def codeEscape (n : Nat) : Text :=
  if n < 0x100 then "\\x".points ++ hex 2 n
  else if n < 0x10000 then "\\u".points ++ hex 4 n
  else "\\U".points ++ hex 8 n

/-- One code point inside quotes. -/
def quotedPoint (quote p : Point) : Text :=
  match shortEscape? quote p with
  | some t => t
  | none => if isShown p then [p] else codeEscape p.code

/-- A text between quotes. -/
def quoted (t : Text) : Text :=
  let q := quoteFor t
  q :: t.flatMap (quotedPoint q) ++ [q]

/-- One byte inside quotes; only bytes of printable ASCII characters are shown. -/
def quotedByte (quote : Point) (b : UInt8) : Text :=
  let p := Point.ofCode b.toNat
  match shortEscape? quote p with
  | some t => t
  | none => if 0x20 ≤ b && b < 0x7F then [p] else codeEscape b.toNat

/-- Bytes between quotes. -/
def quotedBytes (bs : List UInt8) : Text :=
  let q := quoteFor (bs.map fun b => .ofCode b.toNat)
  .char 'b' :: q :: bs.flatMap (quotedByte q) ++ [q]

end Docblocks.Text
