import Docblocks.Yaml.Node
import Docblocks.Value.Slots

/-!
The value of a graph of nodes whose scalars have values.

A node that is met again inside itself is a reference back to it, and every collection that holds
references to nodes around it is a knot, so that it can be told wherever it is met again. What is on
no cycle is put together once.
-/

set_option autoImplicit false
set_option relaxedAutoImplicit false

namespace Docblocks.Yaml

/-- A value, and the labels of the knots around it that it refers to. -/
structure Part where
  value : Value
  free : List Label := []

namespace Part

/-- A part that refers to something around it, as a knot with a label of its own. -/
def tied (l : Label) (p : Part) : Part :=
  if p.free.isEmpty then p else ⟨.knot l p.value, p.free.filter (· != l)⟩

/-- Whether a part is a knot. -/
def isKnot (p : Part) : Bool :=
  match p.value with
  | .knot _ _ => true
  | _ => false

/-- Two parts as a pair. -/
def pair (a b : Part) : Part :=
  ⟨.pair a.value b.value, a.free ++ b.free⟩

/-- Parts as a list. -/
def list (ps : List Part) : Part :=
  ⟨.list (ps.map Part.value), ps.flatMap Part.free⟩

/-- Keys and their values as a table. -/
def table (es : List (Part × Part)) : Part :=
  ⟨.map (Table.ofEntries (es.map fun e => (e.1.value, e.2.value))), es.flatMap fun e => e.2.free⟩

end Part

/-- Keys as a set. -/
def Part.members (ks : List Part) : Part :=
  ⟨.setOf (setOrder ((Table.ofEntries (ks.map fun k => (k.value, .null))).map Prod.fst)), []⟩

/-- The values of nodes so far. -/
abbrev Values := Array (Option Value)

/-- The pairs of a list of mappings of one entry, numbered on from a number in the node they are of.
-/
def assemblePairs (step : Nat → StateM Values Part) (g : Graph) (n : Nat) :
    Nat → List Nat → StateM Values (List Part)
  | _, [] => return []
  | i, m :: ms => do
    match (g.node m).content with
    | .mapping ((k, v) :: _) =>
      let a ← step k
      let b ← step v
      return ((Part.pair a b).tied ⟨n, i⟩) :: (← assemblePairs step g n (i + 1) ms)
    | _ => assemblePairs step g n (i + 1) ms

/-- A collection with a step for the nodes in it. -/
def assembleCollection (step : Nat → StateM Values Part) (g : Graph) (n : Nat) :
    StateM Values Part := do
  let x := g.node n
  match x.tag, x.content with
  | .sequence, .sequence items => return .list (← items.mapM step)
  | .pairs, .sequence items => return .list (← assemblePairs step g n 1 items)
  | .mapping, .mapping es => return .table (← es.mapM fun e => return (← step e.1, ← step e.2))
  | .unordered, .mapping es => return .members (← es.mapM fun e => step e.1)
  | _, _ => return ⟨.null, []⟩

/-- A node inside other nodes. These are all different, so more steps than there are nodes are never
needed. -/
def assembleIn (g : Graph) : Nat → List Nat → Nat → StateM Values Part
  | 0, _, _ => return ⟨.null, []⟩
  | fuel + 1, around, n => do
    match (← get).getD n none with
    | some v => return ⟨v, []⟩
    | none =>
      if around.contains n then return ⟨.back ⟨n, 0⟩, [⟨n, 0⟩]⟩
      let p := (← assembleCollection (assembleIn g fuel (n :: around)) g n).tied ⟨n, 0⟩
      if !p.isKnot then modify fun values => values.setIfInBounds n (some p.value)
      return p

/-- The value of a node of a graph, of which the scalars have values. -/
def assemble (g : Graph) (scalars : Values) (n : Nat) : Value :=
  ((assembleIn g (g.size + 1) [] n).run scalars).1.value

end Docblocks.Yaml
