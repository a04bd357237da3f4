import Docblocks.Yaml.Tag
import Docblocks.Yaml.Token

/-!
The nodes of a YAML document, read from its tokens.

Nodes are numbered, and collections name their parts by number. An alias stands for the node that
carries its anchor before it in the text, which may be a collection around the alias. Every token is
asked for when it is needed and not before, so that a fault of the text that comes first is found
first.
-/

set_option autoImplicit false
set_option relaxedAutoImplicit false

namespace Docblocks.Yaml

/-- What a node holds: a text, or the numbers of other nodes. -/
inductive Content
  | scalar (text : Text)
  | sequence (items : List Nat)
  | mapping (entries : List (Nat × Nat))
  deriving DecidableEq, Repr

/-- A node of a document. -/
structure Node where
  tag : Tag
  content : Content
  deriving DecidableEq, Repr

/-- The node of a place where nothing stands. -/
def Node.absent : Node := ⟨.null, .scalar []⟩

/-- Numbered nodes. -/
abbrev Graph := Array Node

/-- The node of a number. -/
def Graph.node (g : Graph) (n : Nat) : Node :=
  g.getD n .absent

/-- A node in the place of another one. -/
def Graph.put (g : Graph) (n : Nat) (x : Node) : Graph :=
  g.setIfInBounds n x

/-- A document: its nodes and the number of the outermost one. -/
structure Document where
  graph : Graph
  root : Nat

/-- What is left of the tokens, and the fault behind them if there is one; the nodes so far, those
with anchors, and the meaning of the tag handles. -/
structure Reader where
  tokens : List Token
  fault? : Option Fault := none
  nodes : Graph := #[]
  anchors : List (List Char × Nat) := []
  handles : List (List Char × List Char) := []

/-- A step of reading. -/
abbrev Reading := StateT Reader (Except Fault)

namespace Reader

/-- The next token; where there is none, the fault of the text is met. -/
def peek : Reading Token := do
  let r ← get
  match r.tokens with
  | t :: _ => return t
  | [] => throw (r.fault?.getD .malformed)

/-- Passes over the next token. -/
def drop : Reading Unit :=
  modify fun r => { r with tokens := r.tokens.drop 1 }

/-- Whether the next token is one of some tokens. -/
def sees (ts : List Token) : Reading Bool := do
  return ts.contains (← peek)

/-- Numbers a new node, and gives it an anchor. -/
def add (anchor? : Option (List Char)) (x : Node) : Reading Nat :=
  modifyGet fun r =>
    let n := r.nodes.size
    let anchors :=
      match anchor? with
      | some a => (a, n) :: r.anchors
      | none => r.anchors
    (n, { r with nodes := r.nodes.push x, anchors := anchors })

/-- Fills a node. -/
def fill (n : Nat) (x : Node) : Reading Unit :=
  modify fun r => { r with nodes := r.nodes.put n x }

/-- The node of a place where nothing stands. -/
def absent : Reading Nat :=
  add none .absent

/-- The node with an anchor. -/
def aliased (name : List Char) : Reading Nat := do
  match (← get).anchors.lookup name with
  | some n => return n
  | none => throw .malformed

/-- No two nodes have the same anchor. -/
def checkAnchor (anchor? : Option (List Char)) : Reading Unit := do
  match anchor? with
  | some a => if ((← get).anchors.lookup a).isSome then throw .malformed
  | none => return

/-- The full name of a tag. -/
def fullTag (handle? : Option (List Char)) (suffix : List Char) : Reading (List Char) := do
  match handle? with
  | none => return suffix
  | some h =>
    match (← get).handles.lookup h with
    | some uri => return uri ++ suffix
    | none => throw .malformed

end Reader

open Reader (peek drop sees add fill absent aliased checkAnchor fullTag)

/-- The anchor and the tag in front of a node; a lone mark counts as a tag of its own. -/
structure Properties where
  anchor? : Option (List Char) := none
  tag? : Option (List Char) := none

/-- Whether there is an anchor or a tag. -/
def Properties.given (p : Properties) : Bool :=
  p.anchor?.isSome || p.tag?.isSome

/-- Reads an anchor and a tag in any order. -/
def properties : Reading Properties := do
  match ← peek with
  | .anchor a =>
    drop
    match ← peek with
    | .tag h s =>
      drop
      return ⟨some a, some (← fullTag h s)⟩
    | _ => return ⟨some a, none⟩
  | .tag h s =>
    drop
    match ← peek with
    | .anchor a =>
      drop
      return ⟨some a, some (← fullTag h s)⟩
    | _ => return ⟨none, some (← fullTag h s)⟩
  | _ => return {}

/-- The tag of a scalar: a plain one and one with a lone mark are tagged by their form. -/
def scalarTag (p : Properties) (plain : Bool) (text : Text) : Tag :=
  match p.tag? with
  | none => if plain then Tag.ofPlain text else .text
  | some t => if t == ['!'] then Tag.ofPlain text else Tag.ofUri t

/-- The tag of a collection. -/
def collectionTag (p : Properties) (usual : Tag) : Tag :=
  match p.tag? with
  | none => usual
  | some t => if t == ['!'] then usual else Tag.ofUri t

/-- Numbers a scalar. -/
def addScalar (p : Properties) (plain : Bool) (text : Text) : Reading Nat :=
  add p.anchor? ⟨scalarTag p plain text, .scalar text⟩

/-- Reads a sequence, which is numbered before its items. -/
def sequenceOf (p : Properties) (items : Reading (List Nat)) : Reading Nat := do
  let tag := collectionTag p .sequence
  let n ← add p.anchor? ⟨tag, .sequence []⟩
  fill n ⟨tag, .sequence (← items)⟩
  return n

/-- Reads a mapping, which is numbered before its entries. -/
def mappingOf (p : Properties) (entries : Reading (List (Nat × Nat))) : Reading Nat := do
  let tag := collectionTag p .mapping
  let n ← add p.anchor? ⟨tag, .mapping []⟩
  fill n ⟨tag, .mapping (← entries)⟩
  return n

mutual

/-- Reads a node. A block collection may stand in block context only, and a sequence that is not
indented only where `loose` allows it. -/
def readNode (block loose : Bool) : Nat → Reading Nat
  | 0 => throw .malformed
  | fuel + 1 => do
    match ← peek with
    | .alias name =>
      drop
      aliased name
    | _ =>
      let p ← properties
      let t ← peek
      checkAnchor p.anchor?
      match t, block, loose with
      | .blockEntry, _, true => sequenceOf p (readLoose fuel)
      | .scalar t plain, _, _ =>
        drop
        addScalar p plain t
      | .flowSequenceStart, _, _ =>
        drop
        sequenceOf p (readFlowSequence true fuel)
      | .flowMappingStart, _, _ =>
        drop
        mappingOf p (readFlowMapping true fuel)
      | .sequenceStart, true, _ =>
        drop
        sequenceOf p (readSequence fuel)
      | .mappingStart, true, _ =>
        drop
        mappingOf p (readMapping fuel)
      | _, _, _ => if p.given then addScalar p true [] else throw .malformed

/-- Reads a node, unless one of some tokens comes next. -/
def readUnless (ts : List Token) (block loose : Bool) : Nat → Reading Nat
  | 0 => throw .malformed
  | fuel + 1 => do
    if ← sees ts then absent else readNode block loose fuel

/-- Reads the entries of a block sequence up to its end. -/
def readSequence : Nat → Reading (List Nat)
  | 0 => throw .malformed
  | fuel + 1 => do
    match ← peek with
    | .blockEntry =>
      drop
      let n ← readUnless [.blockEntry, .blockEnd] true false fuel
      return n :: (← readSequence fuel)
    | .blockEnd =>
      drop
      return []
    | _ => throw .malformed

/-- Reads the entries of a sequence that is not indented against its mapping. -/
def readLoose : Nat → Reading (List Nat)
  | 0 => throw .malformed
  | fuel + 1 => do
    match ← peek with
    | .blockEntry =>
      drop
      let n ← readUnless [.blockEntry, .key, .value, .blockEnd] true false fuel
      return n :: (← readLoose fuel)
    | _ => return []

/-- Reads the entries of a block mapping up to its end. -/
def readMapping : Nat → Reading (List (Nat × Nat))
  | 0 => throw .malformed
  | fuel + 1 => do
    match ← peek with
    | .key =>
      drop
      let k ← readUnless [.key, .value, .blockEnd] true true fuel
      let v ← readValue [.key, .value, .blockEnd] true fuel
      return (k, v) :: (← readMapping fuel)
    | .blockEnd =>
      drop
      return []
    | _ => throw .malformed

/-- Reads a value after its indicator; without one, and before some tokens, there is none. -/
def readValue (ts : List Token) (block : Bool) : Nat → Reading Nat
  | 0 => throw .malformed
  | fuel + 1 => do
    match ← peek with
    | .value =>
      drop
      readUnless ts block block fuel
    | _ => absent

/-- Reads the entries of a flow sequence up to its end; a key among them makes a mapping of one
entry. -/
def readFlowSequence (first : Bool) : Nat → Reading (List Nat)
  | 0 => throw .malformed
  | fuel + 1 => do
    let t ← peek
    if t = .flowSequenceEnd then
      drop
      return []
    if !first then
      if t = .flowEntry then drop else throw .malformed
    match ← peek with
    | .flowSequenceEnd =>
      drop
      return []
    | .key =>
      let n ← mappingOf {} do
        drop
        return [← readPair .flowSequenceEnd fuel]
      return n :: (← readFlowSequence false fuel)
    | _ =>
      let n ← readNode false false fuel
      return n :: (← readFlowSequence false fuel)

/-- Reads the entries of a flow mapping up to its end; an entry without a key indicator has no
value. -/
def readFlowMapping (first : Bool) : Nat → Reading (List (Nat × Nat))
  | 0 => throw .malformed
  | fuel + 1 => do
    let t ← peek
    if t = .flowMappingEnd then
      drop
      return []
    if !first then
      if t = .flowEntry then drop else throw .malformed
    match ← peek with
    | .flowMappingEnd =>
      drop
      return []
    | .key =>
      drop
      let e ← readPair .flowMappingEnd fuel
      return e :: (← readFlowMapping false fuel)
    | _ =>
      let k ← readNode false false fuel
      let v ← absent
      return (k, v) :: (← readFlowMapping false fuel)

/-- Reads a key and its value in a flow collection that a token closes. -/
def readPair (close : Token) : Nat → Reading (Nat × Nat)
  | 0 => throw .malformed
  | fuel + 1 => do
    let k ← readUnless [.value, .flowEntry, close] false false fuel
    let v ← readValue [.flowEntry, close] false fuel
    return (k, v)

end

/-- The handles that every document knows. -/
def usualHandles : List (List Char × List Char) := [(['!'], ['!']), (['!', '!'], coreUri)]

/-- Reads the directives of a document: at most one version, which has to be compatible, and no
handle twice. -/
def readDirectives (versions : Nat) (handles : List (List Char × List Char)) :
    Nat → Reading (List (List Char × List Char))
  | 0 => throw .malformed
  | fuel + 1 => do
    match ← peek with
    | .version major =>
      drop
      if versions ≠ 0 || major ≠ 1 then throw .malformed
      readDirectives 1 handles fuel
    | .handle name uri =>
      drop
      if (handles.lookup name).isSome then throw .malformed
      readDirectives versions ((name, uri) :: handles) fuel
    | .reserved =>
      drop
      readDirectives versions handles fuel
    | _ => return handles

/-- Whether a token starts or ends a document or the text. -/
def Token.bounds : Token → Bool
  | .version _ => true
  | .handle _ _ => true
  | .reserved => true
  | .documentStart => true
  | .documentEnd => true
  | .streamEnd => true
  | _ => false

/-- Reads the directives and the start line of a document, and sets the handles. -/
def readStart (fuel : Nat) : Reading Unit := do
  let handles ← readDirectives 0 [] fuel
  if ← sees [.documentStart] then drop else throw .malformed
  modify fun r => { r with handles := handles ++ usualHandles }

/-- Passes over the ends of documents. -/
def skipEnds : Nat → Reading Unit
  | 0 => return
  | fuel + 1 => do
    if ← sees [.documentEnd] then
      drop
      skipEnds fuel

/-- Nothing but document ends may follow the only document; another one is noticed at its start. -/
def readEnd (fuel : Nat) : Reading Unit := do
  skipEnds fuel
  if ← sees [.streamEnd] then return
  readStart fuel
  throw .malformed

/-- Reads the only document of a text, if it holds one. -/
def readDocument (fuel : Nat) : Reading (Option Nat) := do
  let t ← peek
  if t = .streamEnd then return none
  let bare := t = .documentEnd || !t.bounds
  if bare then modify fun r => { r with handles := usualHandles } else readStart fuel
  let n ← if !bare && (← peek).bounds then absent else readNode true false fuel
  readEnd fuel
  return some n

/-- The only document of a text, if it holds one. -/
def Document.ofTokens (ts : Tokens) : Except Fault (Option Document) :=
  let start : Reader := { tokens := ts.tokens, fault? := ts.fault? }
  match (readDocument (4 * ts.tokens.length + 4)).run start with
  | .error f => .error f
  | .ok (n?, r) => .ok (n?.map fun n => ⟨r.nodes, n⟩)

end Docblocks.Yaml
