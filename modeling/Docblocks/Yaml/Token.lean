import Docblocks.Yaml.Scalar

/-!
The tokens of a YAML text.

Block collections are bounded by tokens that stand for a change of indentation. A key without an
indicator is recognised only at the colon after it, so the place of the last token that may start
such a key is remembered on each level of flow collections, and the key token is put there
afterwards.

A scan that fails has released the tokens in front of the first one that might still become a key.
-/

set_option autoImplicit false
set_option relaxedAutoImplicit false

namespace Docblocks.Yaml

/-- A token of a YAML text. -/
inductive Token
  | version (major : Nat)
  | handle (name uri : List Char)
  | reserved
  | documentStart
  | documentEnd
  | sequenceStart
  | mappingStart
  | blockEnd
  | flowSequenceStart
  | flowSequenceEnd
  | flowMappingStart
  | flowMappingEnd
  | blockEntry
  | flowEntry
  | key
  | value
  | alias (name : List Char)
  | anchor (name : List Char)
  | tag (handle? : Option (List Char)) (suffix : List Char)
  | scalar (text : Text) (plain : Bool)
  | streamEnd
  deriving DecidableEq, Repr

/-- A token that may turn out to start a key. -/
structure KeyStart where
  number : Nat
  required : Bool
  place : Place
  deriving DecidableEq, Repr

/-- The state of a scan. Tokens are kept with the last one first, and counted. -/
structure Scan where
  cursor : Cursor
  tokens : List Token := []
  count : Nat := 0
  flow : Nat := 0
  indent : Int := -1
  indents : List Int := []
  keyAllowed : Bool := true
  keys : List (Nat × KeyStart) := []
  ended : Bool := false
  deriving Repr

namespace Scan

/-- The column of the scan. -/
def column (s : Scan) : Nat := s.cursor.column

/-- The scan with one more token. -/
def emit (s : Scan) (t : Token) : Scan :=
  { s with tokens := t :: s.tokens, count := s.count + 1 }

/-- The scan with tokens put in front of the token of a number. -/
def insert (s : Scan) (number : Nat) (ts : List Token) : Scan :=
  let after := s.count - number
  { s with
    tokens := s.tokens.take after ++ ts.reverse ++ s.tokens.drop after
    count := s.count + ts.length }

/-- The scan at another place. -/
def movedTo (s : Scan) (k : Cursor) : Scan :=
  { s with cursor := k }

/-- Forgets the keys that can no longer be: a key stands on one line and is at most 1024 characters
long. A key that has to be there is a fault instead. -/
def dropStaleKeys (s : Scan) : Except Fault Scan :=
  let here := s.cursor.place
  let stale (k : KeyStart) : Bool :=
    k.place.line != here.line || k.place.index + 1024 < here.index
  if s.keys.any fun e => stale e.2 && e.2.required then .error .malformed
  else .ok { s with keys := s.keys.filter fun e => !stale e.2 }

/-- Forgets the key of the current level. -/
def dropKey (s : Scan) : Except Fault Scan :=
  match s.keys.lookup s.flow with
  | some k =>
    if k.required then .error .malformed
    else .ok { s with keys := s.keys.filter fun e => e.1 != s.flow }
  | none => .ok s

/-- Remembers that the next token may start a key. -/
def noteKey (s : Scan) : Except Fault Scan :=
  if s.keyAllowed then do
    let s ← s.dropKey
    let k : KeyStart :=
      { number := s.count
        required := s.flow == 0 && s.indent == s.column
        place := s.cursor.place }
    return { s with keys := (s.flow, k) :: s.keys }
  else .ok s

/-- Closes the block collections that are indented further than a column. -/
def closeBlocks (column : Int) : List Int → Scan → Scan
  | [], s => s
  | i :: rest, s =>
    if s.flow == 0 && column < s.indent then
      closeBlocks column rest ({ s with indent := i, indents := rest }.emit .blockEnd)
    else s

/-- Closes the block collections that are indented further than a column. -/
def unwind (s : Scan) (column : Int) : Scan :=
  closeBlocks column s.indents s

/-- Opens a block collection at a column that is further in; tells whether it did. -/
def indentTo (s : Scan) (column : Nat) : Bool × Scan :=
  if s.indent < column then
    (true, { s with indent := column, indents := s.indent :: s.indents })
  else (false, s)

/-- Opens a block collection at the current column, with its token, unless one is open there. -/
def openBlock (s : Scan) (start : Token) : Scan :=
  let r := s.indentTo s.column
  if r.1 then r.2.emit start else r.2

/-- Emits a token of one character. -/
def mark (s : Scan) (t : Token) : Except Fault Scan :=
  s.cursor.next.map fun k => (s.movedTo k).emit t

/-- The end of the text. -/
def endStream (s : Scan) : Except Fault Scan := do
  let s ← (s.unwind (-1)).dropKey
  return { s with keyAllowed := false, keys := [], ended := true }.emit .streamEnd

/-- A line that separates documents. -/
def separator (s : Scan) (t : Token) : Except Fault Scan := do
  let s ← (s.unwind (-1)).dropKey
  return ({ s with keyAllowed := false }.movedTo (← s.cursor.skip 3)).emit t

/-- The start of a flow collection. -/
def openFlow (s : Scan) (t : Token) : Except Fault Scan := do
  let s ← s.noteKey
  { s with flow := s.flow + 1, keyAllowed := true }.mark t

/-- The end of a flow collection. -/
def closeFlow (s : Scan) (t : Token) : Except Fault Scan := do
  let s ← s.dropKey
  if s.flow == 0 then throw .malformed
  { s with flow := s.flow - 1, keyAllowed := false }.mark t

/-- The comma between entries of a flow collection. -/
def flowEntry (s : Scan) : Except Fault Scan := do
  let s ← s.dropKey
  { s with keyAllowed := true }.mark .flowEntry

/-- The dash of an entry of a block sequence. -/
def blockEntry (s : Scan) : Except Fault Scan := do
  if s.flow == 0 && !s.keyAllowed then throw .malformed
  let s := if s.flow == 0 then s.openBlock .sequenceStart else s
  let s ← s.dropKey
  { s with keyAllowed := true }.mark .blockEntry

/-- The question mark of a key. -/
def explicitKey (s : Scan) : Except Fault Scan := do
  if s.flow == 0 && !s.keyAllowed then throw .malformed
  let s := if s.flow == 0 then s.openBlock .mappingStart else s
  let s ← s.dropKey
  { s with keyAllowed := s.flow == 0 }.mark .key

/-- The colon of a value, which may turn an earlier token into a key. -/
def value (s : Scan) : Except Fault Scan := do
  match s.keys.lookup s.flow with
  | some k =>
    let s := { s with keys := s.keys.filter fun e => e.1 != s.flow }
    let r := if s.flow == 0 then s.indentTo k.place.column else (false, s)
    let s := r.2.insert k.number (if r.1 then [.mappingStart, .key] else [.key])
    { s with keyAllowed := false }.mark .value
  | none =>
    if s.flow == 0 && !s.keyAllowed then throw .malformed
    let s := if s.flow == 0 then s.openBlock .mappingStart else s
    let s ← { s with keyAllowed := s.flow == 0 }.dropKey
    s.mark .value

/-- A token that may start a key and after which no key may start. -/
def keyToken (s : Scan) (read : Cursor → Except Fault (Token × Cursor)) : Except Fault Scan := do
  let s ← s.noteKey
  let r ← read s.cursor
  return ({ s with keyAllowed := false }.movedTo r.2).emit r.1

/-- A block scalar, after which a key may start. -/
def blockText (s : Scan) : Except Fault Scan := do
  let s ← { s with keyAllowed := true }.dropKey
  let r ← blockScalar s.indent s.cursor
  return (s.movedTo r.2).emit (.scalar r.1 false)

/-- A plain scalar; a key may start after it if it ended at the start of a line. -/
def plainText (s : Scan) : Except Fault Scan := do
  let s ← s.noteKey
  let p ← plain (s.flow != 0) (s.indent + 1) s.cursor
  return ({ s with keyAllowed := p.broken }.movedTo p.cursor).emit (.scalar p.value true)

end Scan

/-- A name of an anchor or an alias, after its indicator. -/
def anchorName (k : Cursor) : Except Fault (List Char × Cursor) := do
  let r ← (← k.next).run isWord
  let c ← r.2.peek
  let follows := isWideGap c || "?:,]\x7d%@`".toList.contains c
  if r.1.isEmpty || !follows then throw .malformed else return r

/-- Whether a character may stand in the suffix of a tag. -/
def isUriChar (c : Char) : Bool :=
  c.isAlphanum || "-;/?:@&=+$,_.!~*'()[]".toList.contains c

/-- The suffix of a tag after `skip` more characters: its bytes, with escapes resolved and the last
one first, and the place after it. -/
def uriFrom : Nat → List UInt8 → Place → Source → Except Fault (List UInt8 × Cursor)
  | _, _, _, .broken f => .error f
  | _, got, place, .fin => .ok (got, ⟨.fin, place⟩)
  | skip + 1, got, place, .char c rest => uriFrom skip got (place.after c) rest
  | 0, got, place, .char c rest =>
    if c == '%' then
      match hexNumber 2 0 rest with
      | .error f => .error f
      | .ok n => uriFrom 2 (n.toUInt8 :: got) (place.after c) rest
    else if isUriChar c then uriFrom 0 (c.toNat.toUInt8 :: got) (place.after c) rest
    else .ok (got, ⟨.char c rest, place⟩)

/-- The suffix of a tag, which is not empty. -/
def uri (k : Cursor) : Except Fault (List Char × Cursor) := do
  let r ← uriFrom 0 [] k.place k.rest
  if r.1.isEmpty then throw .malformed
  match Text.Utf8.decode r.1.reverse with
  | .ok cs => return (cs, r.2)
  | .error _ => throw .malformed

/-- The handle of a tag, between its exclamation marks. -/
def tagHandle (k : Cursor) : Except Fault (List Char × Cursor) := do
  if (← k.peek) != '!' then throw .malformed
  if (← k.peekAt 1) == ' ' then return (['!'], ← k.next)
  let r ← (← k.next).run isWord
  if (← r.2.peek) == '!' then return ('!' :: r.1 ++ ['!'], ← r.2.next) else throw .malformed

/-- Whether an exclamation mark stands before the next gap. -/
def hasHandle : Source → Except Fault Bool
  | .broken f => .error f
  | .fin => .ok false
  | .char c rest => if c == '!' then .ok true else if isGap c then .ok false else hasHandle rest

/-- The parts of a tag: a full one between angle brackets, a lone mark, or a handle and a suffix. -/
def tagParts (k : Cursor) : Except Fault (Token × Cursor) := do
  let c ← k.peekAt 1
  if c == '<' then
    let r ← uri (← k.skip 2)
    if (← r.2.peek) != '>' then throw .malformed
    return (.tag none r.1, ← r.2.next)
  else
    let after ← k.next
    if isWideGap c then return (.tag none ['!'], after)
    let h ← if ← hasHandle after.rest then tagHandle k else pure (['!'], after)
    let r ← uri h.2
    return (.tag (some h.1) r.1, r.2)

/-- Scans a tag, which a gap has to follow. -/
def tagToken (k : Cursor) : Except Fault (Token × Cursor) := do
  let r ← tagParts k
  if isGap (← r.2.peek) then return r else throw .malformed

/-- A number of a directive. -/
def directiveNumber (k : Cursor) : Except Fault (Nat × Cursor) := do
  let r ← k.run Char.isDigit
  if r.1.isEmpty then throw .malformed
  (Number.checkDigits r.1.length).mapError .tooLong
  return (r.1.foldl (fun n c => n * 10 + (c.toNat - 48)) 0, r.2)

/-- The version after the name of its directive. -/
def versionDirective (k : Cursor) : Except Fault (Token × Cursor) := do
  let major ← directiveNumber (← k.skipWhile (· == ' '))
  if (← major.2.peek) != '.' then throw .malformed
  let minor ← directiveNumber (← major.2.next)
  if isGap (← minor.2.peek) then return (.version major.1, minor.2) else throw .malformed

/-- The handle and its meaning after the name of their directive. -/
def handleDirective (k : Cursor) : Except Fault (Token × Cursor) := do
  let h ← tagHandle (← k.skipWhile (· == ' '))
  if (← h.2.peek) != ' ' then throw .malformed
  let r ← uri (← h.2.skipWhile (· == ' '))
  if isGap (← r.2.peek) then return (.handle h.1 r.1, r.2) else throw .malformed

/-- Scans a directive, from its percent sign. -/
def directive (k : Cursor) : Except Fault (Token × Cursor) := do
  let name ← (← k.next).run isWord
  if name.1.isEmpty || !isGap (← name.2.peek) then throw .malformed
  let r ←
    if name.1 == "YAML".toList then versionDirective name.2
    else if name.1 == "TAG".toList then handleDirective name.2
    else (name.2.skipWhile fun c => !isLineEnd c).map fun k => (Token.reserved, k)
  return (r.1, ← r.2.skipEmptyLine)

/-- Whether a plain scalar may start at a character. -/
def startsPlain (flow : Bool) (c : Char) (k : Cursor) : Except Fault Bool :=
  if isWideGap c || "-?:,[]\x7b\x7d#&*!|>'\"%@`".toList.contains c then
    (k.peekAt 1).map fun d => !isWideGap d && (c == '-' || (!flow && (c == '?' || c == ':')))
  else .ok true

namespace Scan

/-- Goes to the next token: over spaces, comments and line ends, after which a key may start in
block context, and closes the block collections that end there. -/
def advance (s : Scan) : Except Fault Scan := do
  let k := s.cursor
  let k ← if k.place.index == 0 && (← k.peek) == byteOrderMark then k.next else pure k
  let gap ← k.nextToken
  let s := { s with
    cursor := gap.2
    keyAllowed := s.keyAllowed || (gap.1 && s.flow == 0) }
  let s ← s.dropStaleKeys
  return s.unwind s.column

/-- A directive. -/
def directiveLine (s : Scan) : Except Fault Scan := do
  let s ← (s.unwind (-1)).dropKey
  let r ← directive s.cursor
  return ({ s with keyAllowed := false }.movedTo r.2).emit r.1

/-- Whether a character stands as the indicator of an entry, a key or a value. -/
def isIndicator (s : Scan) (c : Char) : Except Fault Bool :=
  if c == '-' || ((c == '?' || c == ':') && s.flow == 0) then (s.cursor.peekAt 1).map isWideGap
  else .ok (c == '?' || c == ':')

/-- Scans a token that starts with a dash, a question mark, a colon, the indicator of a block scalar
or any character that has no other meaning. -/
def ordinary (s : Scan) (c : Char) : Except Fault Scan := do
  if ← s.isIndicator c then
    if c == '-' then s.blockEntry else if c == '?' then s.explicitKey else s.value
  else if (c == '|' || c == '>') && s.flow == 0 then s.blockText
  else if ← startsPlain (s.flow != 0) c s.cursor then s.plainText
  else throw .malformed

/-- Scans the token at the current place, which does not start a line that separates documents. -/
def token (s : Scan) (c : Char) : Except Fault Scan :=
  match c with
  | '\x00' => s.endStream
  | '[' => s.openFlow .flowSequenceStart
  | '\x7b' => s.openFlow .flowMappingStart
  | ']' => s.closeFlow .flowSequenceEnd
  | '\x7d' => s.closeFlow .flowMappingEnd
  | ',' => s.flowEntry
  | '*' => s.keyToken fun k => (anchorName k).map fun r => (.alias r.1, r.2)
  | '&' => s.keyToken fun k => (anchorName k).map fun r => (.anchor r.1, r.2)
  | '!' => s.keyToken tagToken
  | '\'' => s.keyToken fun k => (quotedScalar k).map fun r => (.scalar r.1 false, r.2)
  | '"' => s.keyToken fun k => (quotedScalar k).map fun r => (.scalar r.1 false, r.2)
  | c => s.ordinary c

/-- One step of a scan. -/
def step (s : Scan) : Except Fault Scan := do
  let s ← s.advance
  let c ← s.cursor.peek
  let atStart := s.column == 0
  if atStart && c == '%' then s.directiveLine
  else if atStart && c == '-' then
    if ← startsWithMark [startMark] s.cursor.rest then s.separator .documentStart else s.token c
  else if atStart && c == '.' then
    if ← startsWithMark [endMark] s.cursor.rest then s.separator .documentEnd else s.token c
  else s.token c

end Scan

/-- The tokens of a text: all of them, or those in front of a fault. -/
structure Tokens where
  tokens : List Token
  fault? : Option Fault := none

/-- The tokens that a scan has released when its next step fails. -/
def Scan.released (s : Scan) (f : Fault) : Tokens :=
  match s.dropStaleKeys with
  | .error f => ⟨[], some f⟩
  | .ok s => ⟨s.tokens.reverse.take (s.keys.foldl (fun n e => min n e.2.number) s.count), some f⟩

/-- Steps until the end of the text; every step but the last takes a character. -/
def Scan.run : Nat → Scan → Tokens
  | 0, s => s.released .malformed
  | fuel + 1, s =>
    match s.step with
    | .error f => s.released f
    | .ok s => if s.ended then ⟨s.tokens.reverse, none⟩ else Scan.run fuel s

/-- The tokens of a text. -/
def tokens (s : Source) : Tokens :=
  Scan.run (s.size + 2) { cursor := { rest := s } }

end Docblocks.Yaml
