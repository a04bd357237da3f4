import Docblocks.Yaml.Assembly
import Docblocks.Yaml.Merge
import Docblocks.Yaml.ScalarValue

/-!
The value of a YAML text.

The nodes of its document are looked at level by level. A scalar gets its value when it is met, and
a collection waits until all of its level have been met; so of several faults the one nearest to the
root is found first. Each node is looked at once.
-/

set_option autoImplicit false
set_option relaxedAutoImplicit false

namespace Docblocks.Yaml

/-- The text of a node that has to be a scalar; a mapping stands for the value of its equals key. A
mapping that stands for itself has no text. -/
def textIn (g : Graph) : Nat → Nat → Except Fault Text
  | 0, _ => .error .endless
  | fuel + 1, n =>
    match (g.node n).content with
    | .scalar t => .ok t
    | .sequence _ => .error .malformed
    | .mapping es =>
      match es.find? fun e => (g.node e.1).tag = .equals with
      | some e => textIn g fuel e.2
      | none => .error .malformed

/-- The value of a node that is no collection. -/
def Graph.scalar (g : Graph) (n : Nat) : Except Fault Value :=
  match (g.node n).tag, (g.node n).content with
  | .merge, _ => .error .malformed
  | .equals, _ => .error .malformed
  | .unknown, _ => .error .malformed
  | .timestamp, .mapping _ => (textIn g (g.size + 1) n).bind fun _ => .error .timestampNotScalar
  | tag, _ => (textIn g (g.size + 1) n).bind fun t => scalarValue n tag t

/-- The nodes of a document, the values of the scalars that were met, the collections that were met,
and those of them that wait, the last one first. -/
structure Survey where
  graph : Graph
  scalars : Values
  met : Array Bool
  waiting : List Nat := []

/-- A step of a survey. -/
abbrev Surveying := StateT Survey (Except Fault)

/-- Meets a node. -/
def meet (n : Nat) : Surveying Unit := do
  let s ← get
  if s.met.getD n true then return
  set { s with met := s.met.setIfInBounds n true }
  if (s.graph.node n).tag.isCollection then
    modify fun s => { s with waiting := n :: s.waiting }
  else
    let v ← s.graph.scalar n
    modify fun s => { s with scalars := s.scalars.setIfInBounds n (some v) }

/-- Meets the key and the value of an entry; a collection is no key. -/
def meetEntry (e : Nat × Nat) : Surveying Unit := do
  meet e.1
  if ((← get).graph.node e.1).tag.isCollection then throw .malformed
  meet e.2

/-- Meets the entries of a mapping without its merge keys. -/
def meetEntries (n : Nat) : Surveying Unit := do
  let g ← (← get).graph.flatten n
  modify fun s => { s with graph := g }
  (g.entries n).forM meetEntry

/-- Meets a mapping of one entry, which is a pair. -/
def meetPair (n : Nat) : Surveying Unit := do
  match (← get).graph.entries n with
  | [e] =>
    meet e.1
    meet e.2
  | _ => throw .malformed

/-- Meets the nodes in a collection. -/
def meetParts (n : Nat) : Surveying Unit := do
  let x := (← get).graph.node n
  match x.tag, x.content with
  | .sequence, .sequence items => items.forM meet
  | .pairs, .sequence items => items.forM meetPair
  | .mapping, .mapping _ => meetEntries n
  | .unordered, .mapping _ => meetEntries n
  | _, _ => throw .malformed

/-- Meets the nodes level by level. Every level has a node of its own, so more levels than there are
nodes are never needed. -/
def meetLevels : Nat → Surveying Unit
  | 0 => return
  | fuel + 1 => do
    let level := (← get).waiting.reverse
    if level.isEmpty then return
    modify fun s => { s with waiting := [] }
    level.forM meetParts
    meetLevels fuel

/-- The value of a document. -/
def Document.value (d : Document) : Except Fault Value := do
  let size := d.graph.size
  let start : Survey := ⟨d.graph, Array.replicate size none, Array.replicate size false, []⟩
  let r ← (do meet d.root; meetLevels (size + 1) : Surveying Unit).run start
  return assemble r.2.graph r.2.scalars d.root

/-- The value of the bytes of a text, which is null if it holds no document. -/
def load (bytes : List UInt8) : Except Fault Value := do
  match ← Document.ofTokens (tokens (Source.ofBytes bytes)) with
  | none => return .null
  | some d => d.value

end Docblocks.Yaml
