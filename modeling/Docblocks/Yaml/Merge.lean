import Docblocks.Yaml.Node

/-!
Merge keys.

A merge key brings in the entries of a mapping, or of a list of mappings of which the first has the
last word, before the entries of its own mapping. It is taken out of its mapping before its value is
looked at, so a mapping may bring in itself. An equals sign that is left as a key is a text.
-/

set_option autoImplicit false
set_option relaxedAutoImplicit false

namespace Docblocks.Yaml

/-- The entries of a mapping, and none of any other node. -/
def Content.entries : Content → List (Nat × Nat)
  | .mapping es => es
  | _ => []

namespace Graph

/-- The entries of the node of a number. -/
def entries (g : Graph) (n : Nat) : List (Nat × Nat) :=
  (g.node n).content.entries

/-- A graph in which a mapping has other entries. -/
def putEntries (g : Graph) (n : Nat) (es : List (Nat × Nat)) : Graph :=
  g.put n { g.node n with content := .mapping es }

/-- Whether the key of an entry is a merge key. -/
def merges (g : Graph) (e : Nat × Nat) : Bool :=
  (g.node e.1).tag = .merge

/-- A graph in which a key is a text if it is an equals sign. -/
def spellKey (g : Graph) (k : Nat) : Graph :=
  if (g.node k).tag = .equals then g.put k { g.node k with tag := .text } else g

/-- A graph in which all keys of a mapping that are equals signs are texts. -/
def spellKeys (g : Graph) (n : Nat) : Graph :=
  (g.entries n).foldl (fun h e => h.spellKey e.1) g

/-- The number of entries of all mappings. -/
def entryCount (g : Graph) : Nat :=
  g.foldl (fun count x => count + x.content.entries.length) 0

end Graph

/-- A graph after a step that changes one mapping, and the entries that come from it. -/
abbrev Brought := List (Nat × Nat) × Graph

/-- The entries of a list of mappings, the last mapping first, each after a step on it. -/
def broughtAll (step : Nat → Graph → Except Fault Graph) : List Nat → Graph → Except Fault Brought
  | [], g => .ok ([], g)
  | n :: ns, g =>
    match (g.node n).content with
    | .mapping _ => do
      let h ← step n g
      let rest ← broughtAll step ns h
      return (rest.1 ++ h.entries n, rest.2)
    | _ => .error .malformed

/-- The entries that a merge key brings in from its value, after a step on each mapping of it. -/
def brought (step : Nat → Graph → Except Fault Graph) (v : Nat) (g : Graph) :
    Except Fault Brought :=
  match (g.node v).content with
  | .mapping _ => (step v g).map fun h => (h.entries v, h)
  | .sequence items => broughtAll step items g
  | .scalar _ => .error .malformed

/-- A graph in which the merge keys of a mapping have brought in their entries. Every step takes out
a merge key, so more steps than there are entries are never needed. -/
def flattenIn : Nat → Nat → Graph → Except Fault Graph
  | 0, n, g => .ok (g.spellKeys n)
  | fuel + 1, n, g =>
    match (g.entries n).find? g.merges with
    | none => .ok (g.spellKeys n)
    | some e => do
      let b ← brought (flattenIn fuel) e.2 (g.putEntries n ((g.entries n).eraseP g.merges))
      let h ← flattenIn fuel n b.2
      return h.putEntries n (b.1 ++ h.entries n)

/-- A graph in which a mapping has no merge keys. -/
def Graph.flatten (g : Graph) (n : Nat) : Except Fault Graph :=
  flattenIn (g.entryCount + 1) n g

end Docblocks.Yaml
