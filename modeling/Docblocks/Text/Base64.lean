import Docblocks.Text.Point

/-!
Bytes in base 64: four letters stand for three bytes.

Code points that are no letters are passed over. Enough padding signs after at least two letters of
a group end the text; without them the last group has to be whole.
-/

set_option autoImplicit false
set_option relaxedAutoImplicit false

namespace Docblocks.Text

/-- The letters, in the order of their values. -/
def base64Letters : Text :=
  "ABCDEFGHIJKLMNOPQRSTUVWXYZabcdefghijklmnopqrstuvwxyz0123456789+/".points

/-- The byte that a letter completes, after the letters of its group that came before: the letter
and the bits that are left over of the last one. -/
def base64Byte (place rest letter : Nat) : UInt8 :=
  (if place = 1 then rest * 4 + letter / 16
    else if place = 2 then rest * 16 + letter / 4
    else rest * 64 + letter).toUInt8

/-- The bits of a letter at a place of its group that belong to the next byte. -/
def base64Rest (place letter : Nat) : Nat :=
  if place = 0 then letter else if place = 1 then letter % 16 else letter % 4

/-- The bytes after those in hand, last one first, from a place in a group of letters with some bits
left over and some padding signs seen. -/
def base64From (place rest padding : Nat) (got : List UInt8) : Text → Option (List UInt8)
  | [] => if place = 0 then some got.reverse else none
  | p :: t =>
    if p = .char '=' then
      if 2 ≤ place && 4 ≤ place + padding + 1 then some got.reverse
      else base64From place rest (if 2 ≤ place then padding + 1 else padding) got t
    else
      match base64Letters.idxOf? p with
      | none => base64From place rest padding got t
      | some letter =>
        base64From ((place + 1) % 4) (base64Rest place letter) 0
          (if place = 0 then got else base64Byte place rest letter :: got) t

/-- The bytes of a text in base 64, if it is one. -/
def base64Bytes? (t : Text) : Option (List UInt8) :=
  base64From 0 0 0 [] t

end Docblocks.Text
