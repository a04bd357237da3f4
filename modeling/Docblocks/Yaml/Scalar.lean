import Docblocks.Yaml.Cursor

/-!
The three shapes of scalars in a YAML text: plain, quoted and block scalars.

A scan reads the characters of the text one by one and gives the value and the place after it. In
plain and quoted scalars a single line break is folded to a space, and further ones are kept. Values
are gathered with the last character first.
-/

set_option autoImplicit false
set_option relaxedAutoImplicit false

namespace Docblocks.Yaml

/-- What a run of line breaks becomes, the last one first: the first one is a space if it is alone
and ordinary. -/
def foldBreaks (first : Char) (more : List Char) : List Char :=
  if first != '\n' then more ++ [first] else if more.isEmpty then [' '] else more

/-- White space inside a scalar that is not part of its value yet, the last character first: none,
blanks, or line breaks after a first one that is absent when it was escaped. -/
inductive Pending
  | nothing
  | blanks (t : List Char)
  | breaks (first? : Option Char) (more : List Char)

namespace Pending

/-- The part of pending white space that stays in the value. -/
def value : Pending → List Char
  | .nothing => []
  | .blanks t => t
  | .breaks (some c) more => foldBreaks c more
  | .breaks none more => more

/-- Pending white space with one more space or tab, which counts only before a line break. -/
def addBlank (c : Char) : Pending → Pending
  | .nothing => .blanks [c]
  | .blanks t => .blanks (c :: t)
  | .breaks f more => .breaks f more

/-- Pending white space with one more line break. -/
def addBreak (c : Char) : Pending → Pending
  | .breaks f more => .breaks f (breakValue c :: more)
  | _ => .breaks (some (breakValue c)) []

/-- Whether a line ended. -/
def isBroken : Pending → Bool
  | .breaks _ _ => true
  | _ => false

end Pending

/-! ### Plain scalars -/

/-- A scanned plain scalar; `broken` tells whether it ended at the start of a line. -/
structure Plain where
  value : Text
  cursor : Cursor
  broken : Bool

/-- Whether a plain scalar has to pause at a character, before what follows it. -/
def pausesAt (flow : Bool) (c : Char) (rest : Source) : Except Fault Bool :=
  if isWideGap c || (flow && (c == '?' || isFlowMark c)) then .ok true
  else if c == ':' then (rest.get 0).map fun d => isWideGap d || (flow && isFlowMark d)
  else .ok false

/-- Whether a plain scalar ends at a character after white space: a comment starts there, or in
block context the line is not indented far enough. -/
def endsAt (flow : Bool) (indent : Int) (place : Place) (c : Char) : Bool :=
  c == '#' || (!flow && (place.column : Int) < indent)

/-- The rest of a plain scalar after its beginning and the white space behind that. -/
def plainFrom (flow : Bool) (indent : Int) (got : List Char) (gap : Pending) (place : Place) :
    Source → Except Fault Plain
  | .broken f => .error f
  | .fin => .ok ⟨Text.ofChars got.reverse, ⟨.fin, place⟩, gap.isBroken⟩
  | .char c rest =>
    if c == ' ' then plainFrom flow indent got (gap.addBlank c) (place.after c) rest
    else if isBreak c then
      match startsSeparator rest with
      | .error f => .error f
      | .ok true => .ok ⟨Text.ofChars got.reverse, ⟨rest, place.after c⟩, true⟩
      | .ok false => plainFrom flow indent got (gap.addBreak c) (place.after c) rest
    else
      let done : Plain := ⟨Text.ofChars got.reverse, ⟨.char c rest, place⟩, gap.isBroken⟩
      match gap with
      | .nothing =>
        match pausesAt flow c rest with
        | .error f => .error f
        | .ok true => .ok done
        | .ok false => plainFrom flow indent (c :: got) .nothing (place.after c) rest
      | gap =>
        if endsAt flow indent place c then .ok done
        else
          match pausesAt flow c rest with
          | .error f => .error f
          | .ok true => .ok done
          | .ok false =>
            plainFrom flow indent (c :: gap.value ++ got) .nothing (place.after c) rest

/-- Scans a plain scalar. -/
def plain (flow : Bool) (indent : Int) (k : Cursor) : Except Fault Plain :=
  plainFrom flow indent [] .nothing k.place k.rest

/-! ### Quoted scalars -/

/-- Characters in front of a value that is gathered. -/
def gather (t : List Char) (got : Text) : Text :=
  Text.ofChars t ++ got

/-- The rest of a single-quoted scalar after `skip` more characters. -/
def singleFrom : Nat → Pending → Text → Place → Source → Except Fault (Text × Cursor)
  | _, _, _, _, .broken f => .error f
  | _, _, _, _, .fin => .error .malformed
  | skip + 1, p, got, place, .char c rest => singleFrom skip p got (place.after c) rest
  | 0, p, got, place, .char c rest =>
    if c == '\'' then
      match rest.get 0 with
      | .error f => .error f
      | .ok d =>
        if d == '\'' then singleFrom 1 .nothing (gather (c :: p.value) got) (place.after c) rest
        else .ok ((gather p.value got).reverse, ⟨rest, place.after c⟩)
    else if isSpaceOrTab c then singleFrom 0 (p.addBlank c) got (place.after c) rest
    else if isBreak c then
      match startsSeparator rest with
      | .error f => .error f
      | .ok true => .error .malformed
      | .ok false => singleFrom 0 (p.addBreak c) got (place.after c) rest
    else singleFrom 0 .nothing (gather (c :: p.value) got) (place.after c) rest

/-- The code point of an escape of one character. -/
def simpleEscapes : List (Char × Nat) :=
  [('0', 0), ('a', 7), ('b', 8), ('t', 9), ('\t', 9), ('n', 10), ('v', 11), ('f', 12), ('r', 13),
    ('e', 27), (' ', 32), ('"', 34), ('\\', 92), ('/', 47), ('N', 0x85), ('_', 0xA0),
    ('L', 0x2028), ('P', 0x2029)]

/-- The number of hexadecimal digits of an escape by code. -/
def codeEscapes : List (Char × Nat) := [('x', 2), ('u', 4), ('U', 8)]

/-- The value of a hexadecimal digit. -/
def hexDigit? (c : Char) : Option Nat :=
  if c.isDigit then some (c.toNat - 48)
  else if 'a' ≤ c && c ≤ 'f' then some (c.toNat - 87)
  else if 'A' ≤ c && c ≤ 'F' then some (c.toNat - 55)
  else none

/-- The number in the given count of hexadecimal digits. -/
def hexNumber : Nat → Nat → Source → Except Fault Nat
  | 0, acc, _ => .ok acc
  | _ + 1, _, .broken f => .error f
  | _ + 1, _, .fin => .error .malformed
  | n + 1, acc, .char c rest =>
    match hexDigit? c with
    | some d => hexNumber n (acc * 16 + d) rest
    | none => .error .malformed

/-- A code point that an escape may give. -/
def checkPoint (n : Nat) : Except Fault Nat :=
  if n < 0x110000 then .ok n
  else if n < 0x80000000 then .error .codePointRange
  else .error .codePointOverflow

/-- What an escape sequence after its backslash means: a code point, or an escaped line break; with
the number of characters it takes. -/
def escape : Source → Except Fault (Option Nat × Nat)
  | .broken f => .error f
  | .fin => .error .malformed
  | .char c rest =>
    match simpleEscapes.lookup c, codeEscapes.lookup c with
    | some n, _ => .ok (some n, 1)
    | none, some width =>
      match hexNumber width 0 rest with
      | .error f => .error f
      | .ok n => (checkPoint n).map fun n => (some n, width + 1)
    | none, none =>
      if isBreak c then
        match startsSeparator rest with
        | .error f => .error f
        | .ok separated => if separated then .error .malformed else .ok (none, 1)
      else .error .malformed

/-- The rest of a double-quoted scalar after `skip` more characters. -/
def doubleFrom : Nat → Pending → Text → Place → Source → Except Fault (Text × Cursor)
  | _, _, _, _, .broken f => .error f
  | _, _, _, _, .fin => .error .malformed
  | skip + 1, p, got, place, .char c rest => doubleFrom skip p got (place.after c) rest
  | 0, p, got, place, .char c rest =>
    if c == '"' then
      match rest.get 0 with
      | .error f => .error f
      | .ok _ => .ok ((gather p.value got).reverse, ⟨rest, place.after c⟩)
    else if c == '\\' then
      match escape rest with
      | .error f => .error f
      | .ok (some n, width) =>
        doubleFrom width .nothing (.ofCode n :: gather p.value got) (place.after c) rest
      | .ok (none, width) =>
        doubleFrom width (.breaks none []) (gather p.value got) (place.after c) rest
    else if isSpaceOrTab c then doubleFrom 0 (p.addBlank c) got (place.after c) rest
    else if isBreak c then
      match startsSeparator rest with
      | .error f => .error f
      | .ok true => .error .malformed
      | .ok false => doubleFrom 0 (p.addBreak c) got (place.after c) rest
    else doubleFrom 0 .nothing (gather (c :: p.value) got) (place.after c) rest

/-- Scans a quoted scalar, from its opening quote. -/
def quotedScalar (k : Cursor) : Except Fault (Text × Cursor) := do
  let quote ← k.peek
  let k ← k.next
  if quote == '"' then doubleFrom 0 .nothing [] k.place k.rest
  else singleFrom 0 .nothing [] k.place k.rest

/-! ### Block scalars -/

/-- What happens to the line breaks at the end of a block scalar. -/
inductive Chomp
  | clip
  | strip
  | keep
  deriving DecidableEq, Repr

/-- The sign of a chomping rule. -/
def chompOf? (c : Char) : Option Chomp :=
  if c == '+' then some .keep else if c == '-' then some .strip else none

/-- The header of a block scalar. -/
structure Header where
  chomp : Chomp
  increment? : Option Nat
  cursor : Cursor

/-- A chomping sign, if there is one. -/
def chompSign (k : Cursor) : Except Fault (Option Chomp × Cursor) := do
  match chompOf? (← k.peek) with
  | some c => return (some c, ← k.next)
  | none => return (none, k)

/-- An indentation digit, which is never zero, if there is one. -/
def increment (k : Cursor) : Except Fault (Option Nat × Cursor) := do
  let c ← k.peek
  if c == '0' then throw .malformed
  else if c.isDigit then return (some (c.toNat - 48), ← k.next)
  else return (none, k)

/-- Reads the header after its indicator: a chomping sign and an indentation digit in any order. -/
def header (k : Cursor) : Except Fault Header := do
  let first ← chompSign k
  let digit ← increment first.2
  let second ←
    match first.1, digit.1 with
    | none, some _ => chompSign digit.2
    | c?, _ => pure (c?, digit.2)
  if isGap (← second.2.peek) then
    return ⟨second.1.getD .clip, digit.1, ← second.2.skipEmptyLine⟩
  else throw .malformed

/-- Leading empty lines: their breaks, the last one first, the widest indentation, and the place
after them. -/
def leadIn (breaks : List Char) (widest : Nat) (place : Place) :
    Source → Except Fault (List Char × Nat × Cursor)
  | .broken f => .error f
  | .fin => .ok (breaks, widest, ⟨.fin, place⟩)
  | .char c rest =>
    let after := place.after c
    if c == ' ' then leadIn breaks (max widest after.column) after rest
    else if isBreak c then leadIn (breakValue c :: breaks) widest after rest
    else .ok (breaks, widest, ⟨.char c rest, place⟩)

/-- Where the scan of a block scalar is: on a line, which may start with no white space, or between
lines, after the last line with its break, if there was one, and some empty lines. -/
inductive BlockState
  | line (flush : Bool)
  | between (last? : Option (Char × Bool)) (breaks : List Char)

/-- A scanned block scalar: its lines, the break after the last line, the empty lines after that,
all with the last character first, and the place. -/
structure BlockText where
  value : List Char
  lastBreak : List Char
  breaks : List Char
  cursor : Cursor

/-- What stands between two lines. In a folded scalar the break between two lines that start with no
white space is a space, or nothing if empty lines follow. -/
def lineJoint (folded : Bool) (last? : Option (Char × Bool)) (breaks : List Char) (next : Char) :
    List Char :=
  match last? with
  | none => breaks
  | some (c, flush) =>
    if folded && c == '\n' && flush && !isSpaceOrTab next then
      if breaks.isEmpty then [' '] else breaks
    else breaks ++ [c]

/-- The lines of a block scalar. -/
def blockFrom (folded : Bool) (indent : Nat) (state : BlockState) (got : List Char)
    (place : Place) : Source → Except Fault BlockText
  | .broken f => .error f
  | .fin =>
    match state with
    | .line _ => .ok ⟨got, [], [], ⟨.fin, place⟩⟩
    | .between last? breaks =>
      .ok ⟨got, (last?.map fun l => [l.1]).getD [], breaks, ⟨.fin, place⟩⟩
  | .char c rest =>
    let after := place.after c
    match state with
    | .line flush =>
      if isBreak c then
        blockFrom folded indent (.between (some (breakValue c, flush)) []) got after rest
      else blockFrom folded indent (.line flush) (c :: got) after rest
    | .between last? breaks =>
      if c == ' ' && place.column < indent then
        blockFrom folded indent (.between last? breaks) got after rest
      else if isBreak c then
        blockFrom folded indent (.between last? (breakValue c :: breaks)) got after rest
      else if place.column == indent then
        blockFrom folded indent (.line (!isSpaceOrTab c))
          (c :: lineJoint folded last? breaks c ++ got) after rest
      else
        .ok ⟨got, (last?.map fun l => [l.1]).getD [], breaks, ⟨.char c rest, place⟩⟩

/-- The value of a block scalar after chomping. -/
def BlockText.chomped (b : BlockText) : Chomp → Text
  | .strip => Text.ofChars b.value.reverse
  | .clip => Text.ofChars (b.lastBreak ++ b.value).reverse
  | .keep => Text.ofChars (b.breaks ++ b.lastBreak ++ b.value).reverse

/-- Scans a block scalar, from its indicator, inside a collection of the given indentation. -/
def blockScalar (indent : Int) (k : Cursor) : Except Fault (Text × Cursor) := do
  let folded := (← k.peek) == '>'
  let h ← header (← k.next)
  let least := (max 1 (indent + 1)).toNat
  let b ←
    match h.increment? with
    | none => do
      let (breaks, widest, k) ← leadIn [] 0 h.cursor.place h.cursor.rest
      blockFrom folded (max least widest) (.between none breaks) [] k.place k.rest
    | some n =>
      blockFrom folded (least + n - 1) (.between none []) [] h.cursor.place h.cursor.rest
  return (b.chomped h.chomp, b.cursor)

end Docblocks.Yaml
