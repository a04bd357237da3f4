import Docblocks.Calendar

/-!
The values of a data document, and tables of values in the order of their first insertion.

Two scalars are the same key when they are the same number, text, truth value, date or instant; a
truth value counts as one or zero, and a number that is none is the same key only as itself. Lists,
sets and mappings are never keys.

A value may hold itself. Such a value is a knot: its body refers back to the knot by a label, and
`unfolded` puts the whole value in the place of these references.
-/

set_option autoImplicit false
set_option relaxedAutoImplicit false

namespace Docblocks

/-- The name of a knot: the place of the value in its document, and a part of it. -/
structure Label where
  node : Nat
  part : Nat
  deriving DecidableEq, Repr

/-- A value of a data document. -/
inductive Value
  | null
  | bool (b : Bool)
  | int (n : Int)
  | float (x : Number.Binary)
  | undefined (origin : Nat)
  | date (d : Calendar.Date)
  | moment (m : Calendar.Moment)
  | text (t : Text)
  | bytes (bs : List UInt8)
  | list (items : List Value)
  | pair (first second : Value)
  | setOf (members : List Value)
  | map (entries : List (Value × Value))
  | knot (label : Label) (body : Value)
  | back (label : Label)
  deriving Repr, BEq, Inhabited

/-- Keys with their values, in the order in which the keys first came. -/
abbrev Table := List (Value × Value)

namespace Value

mutual

/-- A value with another one in the place of the references to a label. -/
def bind (l : Label) (v : Value) : Value → Value
  | .list items => .list (bindItems l v items)
  | .pair a b => .pair (bind l v a) (bind l v b)
  | .map entries => .map (bindEntries l v entries)
  | .knot m body => if m = l then .knot m body else .knot m (bind l v body)
  | .back m => if m = l then v else .back m
  | w => w

/-- Items with a value in the place of the references to a label. -/
def bindItems (l : Label) (v : Value) : List Value → List Value
  | [] => []
  | w :: ws => bind l v w :: bindItems l v ws

/-- Entries with a value in the place of the references to a label. -/
def bindEntries (l : Label) (v : Value) : List (Value × Value) → List (Value × Value)
  | [] => []
  | (a, b) :: es => (bind l v a, bind l v b) :: bindEntries l v es

end

/-- The body of a knot, with the knot in the place of its references; any other value itself. -/
def unfolded : Value → Value
  | .knot l body => bind l (.knot l body) body
  | v => v

/-- Whether a value stands for something: not null, false, zero or empty. -/
def holds : Value → Bool
  | .null => false
  | .bool b => b
  | .int n => n != 0
  | .float x => !x.isZero
  | .text t => !t.isEmpty
  | .bytes bs => !bs.isEmpty
  | .list items => !items.isEmpty
  | .setOf members => !members.isEmpty
  | .map entries => !entries.isEmpty
  | .knot _ body => body.holds
  | _ => true

/-- Whether a value may be a key. -/
def isKey : Value → Bool
  | .list _ => false
  | .setOf _ => false
  | .map _ => false
  | .knot _ _ => false
  | .back _ => false
  | .pair a b => a.isKey && b.isKey
  | _ => true

/-- The integer that a truth value or an integer is. -/
def asInt? : Value → Option Int
  | .bool b => some (if b then 1 else 0)
  | .int n => some n
  | _ => none

/-- Whether two values are the same key. -/
def sameKey (a b : Value) : Bool :=
  match a, b with
  | .null, .null => true
  | .text s, .text t => s == t
  | .bytes s, .bytes t => s == t
  | .date d, .date e => d == e
  | .moment m, .moment n => m.same n
  | .undefined m, .undefined n => m == n
  | .pair x y, .pair z w => x.sameKey z && y.sameKey w
  | .float x, .float y => x.same y
  | .float x, b => b.asInt?.any x.isInt
  | a, .float y => a.asInt?.any y.isInt
  | a, b =>
    match a.asInt?, b.asInt? with
    | some m, some n => m == n
    | _, _ => false

end Value

namespace Table

/-- Gives a key a value; a key that is there keeps its place. -/
def put (k v : Value) : Table → Table
  | [] => [(k, v)]
  | e :: rest => if e.1.sameKey k then (e.1, v) :: rest else e :: put k v rest

/-- The value of a key. -/
def get? (k : Value) (t : Table) : Option Value :=
  (t.find? fun e => e.1.sameKey k).map (·.2)

/-- The value of a text key. -/
def field? (name : String) (t : Table) : Option Value :=
  t.get? (.text name.points)

/-- The table of a list of entries, the last value of a key winning. -/
def ofEntries (es : List (Value × Value)) : Table :=
  es.foldl (fun t e => put e.1 e.2 t) []

end Table
end Docblocks
