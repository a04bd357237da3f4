import Docblocks.Yaml.Source

/-!
A place in a YAML text, with the classes of characters that decide where tokens end.

The end of the text reads as the NUL character, which no admitted text holds. Line ends have been
unified before, so that a carriage return does not occur either.
-/

set_option autoImplicit false
set_option relaxedAutoImplicit false

namespace Docblocks.Yaml

/-- The mark that may stand before everything else. -/
def byteOrderMark : Char := '\uFEFF'

/-- Whether a character ends a line. -/
def isBreak (c : Char) : Bool :=
  c == '\n' || c == '\x85' || c == '\u2028' || c == '\u2029'

/-- Whether a character ends a line or the text. -/
def isLineEnd (c : Char) : Bool :=
  isBreak c || c == '\x00'

/-- Whether a character is a space or ends a line or the text. -/
def isGap (c : Char) : Bool :=
  c == ' ' || isLineEnd c

/-- Whether a character is a space or a tab or ends a line or the text. -/
def isWideGap (c : Char) : Bool :=
  c == '\t' || isGap c

/-- Whether a character is a space or a tab. -/
def isSpaceOrTab (c : Char) : Bool :=
  c == ' ' || c == '\t'

/-- The line break that a character stands for in a value. -/
def breakValue (c : Char) : Char :=
  if c == '\x85' then '\n' else c

/-- Whether a character may stand in the name of an anchor, a handle or a directive. -/
def isWord (c : Char) : Bool :=
  c.isAlphanum || c == '-' || c == '_'

/-- Whether a character bounds a flow collection or its entries. -/
def isFlowMark (c : Char) : Bool :=
  c == ',' || c == '[' || c == ']' || c == '\x7b' || c == '\x7d'

/-- Whether a text starts with one of some marks, each of three characters, that stands alone. -/
def startsWithMark (marks : List (List Char)) (s : Source) : Except Fault Bool :=
  match s.front 3 with
  | .error f => .error f
  | .ok cs => if marks.contains cs then (s.get 3).map isWideGap else .ok false

/-- The mark that starts a document. -/
def startMark : List Char := ['-', '-', '-']

/-- The mark that ends a document. -/
def endMark : List Char := ['.', '.', '.']

/-- Whether a text starts with a line that separates documents. -/
def startsSeparator (s : Source) : Except Fault Bool :=
  startsWithMark [startMark, endMark] s

/-- The number of characters before a place, and its line and column. -/
structure Place where
  index : Nat := 0
  line : Nat := 0
  column : Nat := 0
  deriving DecidableEq, Repr

/-- The place after a character; the byte order mark takes no column. -/
def Place.after (p : Place) (c : Char) : Place :=
  if isBreak c then ⟨p.index + 1, p.line + 1, 0⟩
  else ⟨p.index + 1, p.line, if c == byteOrderMark then p.column else p.column + 1⟩

/-- A place in a text, and the text from there on. -/
structure Cursor where
  rest : Source
  place : Place := {}
  deriving Repr

namespace Cursor

/-- The column of the place. -/
def column (k : Cursor) : Nat := k.place.column

/-- The character at a distance from the place. -/
def peekAt (k : Cursor) (n : Nat) : Except Fault Char :=
  k.rest.get n

/-- The character at the place. -/
def peek (k : Cursor) : Except Fault Char :=
  k.rest.get 0

/-- The place after one character, which is left only when the next one can be read. -/
def next (k : Cursor) : Except Fault Cursor :=
  match k.rest with
  | .char _ (.broken f) => .error f
  | .char c rest => .ok ⟨rest, k.place.after c⟩
  | .fin => .ok k
  | .broken f => .error f

/-- The place after a number of characters. -/
def skip (k : Cursor) : Nat → Except Fault Cursor
  | 0 => .ok k
  | n + 1 =>
    match k.next with
    | .error f => .error f
    | .ok k => k.skip n

/-- The longest run of characters of a class after those in hand, last one first, and the place
after it. -/
def runFrom (p : Char → Bool) (got : List Char) (place : Place) :
    Source → Except Fault (List Char × Cursor)
  | .char c rest =>
    if p c then runFrom p (c :: got) (place.after c) rest
    else .ok (got.reverse, ⟨.char c rest, place⟩)
  | .fin => .ok (got.reverse, ⟨.fin, place⟩)
  | .broken f => .error f

/-- The longest run of characters of a class, and the place after it. -/
def run (k : Cursor) (p : Char → Bool) : Except Fault (List Char × Cursor) :=
  runFrom p [] k.place k.rest

/-- The place after the longest run of characters of a class. -/
def skipWhile (k : Cursor) (p : Char → Bool) : Except Fault Cursor :=
  (k.run p).map (·.2)

/-- The place after a line break, if there is one. -/
def skipBreak (k : Cursor) : Except Fault Cursor :=
  match k.peek with
  | .error f => .error f
  | .ok c => if isBreak c then k.next else .ok k

/-- Skips the rest of a line that holds nothing but spaces and a comment. -/
def skipEmptyLine (k : Cursor) : Except Fault Cursor := do
  let k ← k.skipWhile (· == ' ')
  let k ← if (← k.peek) == '#' then k.skipWhile fun c => !isLineEnd c else pure k
  if isLineEnd (← k.peek) then k.skipBreak else throw .malformed

/-- Goes over spaces, comments and line ends from a place in a comment or outside, and tells whether
a line ended. -/
def gapFrom (comment broke : Bool) (place : Place) : Source → Except Fault (Bool × Cursor)
  | .char c rest =>
    if isBreak c then gapFrom false true (place.after c) rest
    else if comment || c == ' ' then gapFrom comment broke (place.after c) rest
    else if c == '#' then gapFrom true broke (place.after c) rest
    else .ok (broke, ⟨.char c rest, place⟩)
  | .fin => .ok (broke, ⟨.fin, place⟩)
  | .broken f => .error f

/-- The place of the next token, and whether a line ends before it. -/
def nextToken (k : Cursor) : Except Fault (Bool × Cursor) :=
  gapFrom false false k.place k.rest

end Cursor
end Docblocks.Yaml
