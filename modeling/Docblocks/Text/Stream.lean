import Docblocks.Text.Utf8

/-!
Reading characters from a stream of bytes.

Bytes are decoded in portions, and every line end becomes a line feed. A fault counts its offset
from the start of its portion, which is where a character that the last portion cut off begins.
-/

set_option autoImplicit false
set_option relaxedAutoImplicit false

namespace Docblocks.Text

/-- Characters in which every line end is a line feed. -/
def unifyLineEnds : List Char → List Char
  | [] => []
  | '\r' :: '\n' :: t => '\n' :: unifyLineEnds t
  | '\r' :: t => '\n' :: unifyLineEnds t
  | c :: t => c :: unifyLineEnds t

/-- A stream: the bytes to come, those of a character that was cut off, whether a carriage return
was cut off, the characters that wait to be read, and the size of the last portion in bytes and in
characters. -/
structure Stream where
  bytes : List UInt8
  held : List UInt8 := []
  heldReturn : Bool := false
  ready : List Char := []
  portion : Nat × Nat := (0, 0)
  deriving Repr

namespace Stream

/-- The least number of bytes of a portion. -/
def leastPortion : Nat := 8192

/-- The number of bytes to decode when a number of characters is wanted, by the bytes that a
character took in the last portion. -/
def portionSize (s : Stream) (wanted : Nat) : Nat :=
  if s.portion.2 < s.portion.1 && 0 < s.portion.2 then
    max leastPortion (wanted * s.portion.1 / s.portion.2)
  else max leastPortion wanted

/-- Decodes one more portion; false at the end of the stream, where nothing may be cut off. -/
def fetch (s : Stream) (wanted : Nat) : Except Utf8.Fault (Bool × Stream) :=
  let portion := s.bytes.take (s.portionSize wanted)
  let final := portion.isEmpty
  let data := s.held ++ portion
  let decoded :=
    if final then (Utf8.decode data).map fun cs => (cs, []) else Utf8.decodePortion data
  match decoded with
  | .error f => .error f
  | .ok (cs, held) =>
    let returned := s.heldReturn && (final || !cs.isEmpty)
    let cs := if returned then '\r' :: cs else cs
    let cut := !final && cs.getLast? == some '\r'
    let cs := unifyLineEnds (if cut then cs.dropLast else cs)
    .ok (!final,
      { bytes := s.bytes.drop portion.length
        held := held
        heldReturn := cut || (s.heldReturn && !returned)
        ready := cs
        portion := (portion.length, cs.length) })

/-- Reads characters, after those that have been read already, until the wanted number is there or
the stream ends. -/
def readOn : Nat → Nat → List Char → Stream → Except Utf8.Fault (List Char × Stream)
  | 0, _, got, s => .ok (got, s)
  | fuel + 1, wanted, got, s =>
    let taken := s.ready.take wanted
    let s := { s with ready := s.ready.drop wanted }
    let got := got ++ taken
    let wanted := wanted - taken.length
    if wanted = 0 then .ok (got, s)
    else
      match s.fetch wanted with
      | .error f => .error f
      | .ok (false, s) => .ok (got, s)
      | .ok (true, s) => readOn fuel wanted got s

/-- Reads up to a number of characters. -/
def read (n : Nat) (s : Stream) : Except Utf8.Fault (List Char × Stream) :=
  readOn (s.bytes.length + 2) n [] s

end Stream
end Docblocks.Text
