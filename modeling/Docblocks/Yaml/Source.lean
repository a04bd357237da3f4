import Docblocks.Text.Stream
import Docblocks.Yaml.Fault

/-!
The characters of a YAML text, as far as they can be read.

A text is loaded piece by piece, and a piece with a character that may not stand in a text cannot be
loaded. What stands before the place where loading fails is read all the same.
-/

set_option autoImplicit false
set_option relaxedAutoImplicit false

namespace Docblocks.Yaml

/-- Characters, after which a text ends or its loading fails. -/
inductive Source
  | char (c : Char) (rest : Source)
  | fin
  | broken (fault : Fault)
  deriving Repr

/-- Whether a character may stand in a text at all. -/
def isAdmitted (c : Char) : Bool :=
  let n := c.toNat
  n == 0x9 || n == 0xA || n == 0xD || (0x20 ≤ n && n ≤ 0x7E) || n == 0x85 ||
    (0xA0 ≤ n && n ≤ 0xD7FF) || (0xE000 ≤ n && n ≤ 0xFFFD) || 0x10000 ≤ n

/-- The number of characters of a piece. -/
def pieceSize : Nat := 4096

namespace Source

/-- A piece in front of what follows it. -/
def ofPiece (cs : List Char) (rest : Source) : Source :=
  if cs.all isAdmitted then cs.foldr .char rest else .broken .malformed

/-- The pieces of a stream, up to its end. -/
def ofStream : Nat → Text.Stream → Source
  | 0, _ => .fin
  | fuel + 1, s =>
    match s.read pieceSize with
    | .error f => .broken (.undecodable f)
    | .ok ([], _) => .fin
    | .ok (cs, s) => ofPiece cs (ofStream fuel s)

/-- The characters of bytes; the first two pieces are loaded at once. -/
def ofBytes (bytes : List UInt8) : Source :=
  match Text.Stream.read pieceSize { bytes := bytes } with
  | .error f => .broken (.undecodable f)
  | .ok ([], _) => .fin
  | .ok (first, s) =>
    match s.read pieceSize with
    | .error f => .broken (.undecodable f)
    | .ok ([], _) => ofPiece first .fin
    | .ok (second, s) => ofPiece (first ++ second) (ofStream (bytes.length + 1) s)

/-- Counts the characters that can be read, on from a number. -/
def countFrom (n : Nat) : Source → Nat
  | .char _ rest => countFrom (n + 1) rest
  | _ => n

/-- The number of characters that can be read. -/
def size (s : Source) : Nat :=
  countFrom 0 s

/-- The character at a distance; the end of the text reads as the NUL character. -/
def get : Nat → Source → Except Fault Char
  | 0, .char c _ => .ok c
  | n + 1, .char _ rest => rest.get n
  | _, .fin => .ok '\x00'
  | _, .broken f => .error f

/-- Up to a number of characters from the front. -/
def front : Nat → Source → Except Fault (List Char)
  | 0, _ => .ok []
  | n + 1, .char c rest => (rest.front n).map (c :: ·)
  | _, .fin => .ok []
  | _, .broken f => .error f

end Source
end Docblocks.Yaml
