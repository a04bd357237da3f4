import Docblocks.Schema.Descriptor
import Docblocks.Value.Written

/-!
The classes of a manifest from the value of its document.

A field that is missing or stands for nothing is empty. The elements of a value are the items of a
list, the members of a set, the keys of a mapping, the code points of a text or the numbers of
bytes; a schema field that is no mapping is read as a list of pairs.
-/

set_option autoImplicit false
set_option relaxedAutoImplicit false

namespace Docblocks.Manifest

open Docblocks.Schema (Descriptor Kind)

/-- Why a document is no manifest. -/
inductive Fault
  | notMapping (path : Disk.Path)
  | nameless (entry : Text)
  | unknownKind (kind name : Text)
  | pairLength (index length : Nat)
  | noElements
  | noKey
  | kindNotScalar
  | fileNotText
  | number (fault : Number.TooLong)
  deriving DecidableEq, Repr

/-- The wording of a manifest fault. -/
def Fault.message : Fault → Text
  | .notMapping p => "Manifest at ".points ++ p.written ++ " is not a YAML mapping".points
  | .nameless entry => "Manifest entry without a name: ".points ++ entry
  | .unknownKind kind name => "Unknown kind '".points ++ kind ++ "' for ".points ++ name
  | .pairLength i n =>
    "dictionary update sequence element #".points ++ Number.natText i ++ " has length ".points ++
      Number.natText n ++ "; 2 is required".points
  | .noElements => "value has no elements".points
  | .noKey => "value cannot be a key".points
  | .kindNotScalar => "kind is not a scalar".points
  | .fileNotText => "file is not a text".points
  | .number f => f.message

/-- The fault of an entry without a name. -/
def namelessFault (entry : Value) : Fault :=
  match entry.literal with
  | .ok t => .nameless t
  | .error f => .number f

/-- The fault of a kind that is none. -/
def kindFault (kind name : Value) : Fault :=
  match kind.written, name.written with
  | .ok k, .ok n => .unknownKind k n
  | .error f, _ => .number f
  | _, .error f => .number f

/-- The elements of a value that has any. -/
def elements (v : Value) : Except Fault (List Value) :=
  match v.unfolded with
  | .list vs => .ok vs
  | .pair a b => .ok [a, b]
  | .setOf vs => .ok vs
  | .map es => .ok (es.map (·.1))
  | .text t => .ok (t.map fun p => .text [p])
  | .bytes bs => .ok (bs.map fun b => .int b.toNat)
  | _ => .error .noElements

/-- The elements of a field, none if it stands for nothing. -/
def elementsOf (v? : Option Value) : Except Fault (List Value) :=
  match v? with
  | none => .ok []
  | some v => if v.holds then elements v else .ok []

/-- A key with its value from an element that has exactly two elements. -/
def pair (index : Nat) (v : Value) : Except Fault (Value × Value) :=
  match elements v with
  | .error f => .error f
  | .ok [k, x] => if k.isKey then .ok (k, x) else .error .noKey
  | .ok vs => .error (.pairLength index vs.length)

/-- The pairs of a list of elements. -/
def pairs : Nat → List Value → Except Fault (List (Value × Value))
  | _, [] => .ok []
  | i, v :: vs =>
    match pair i v with
    | .error f => .error f
    | .ok e => (pairs (i + 1) vs).map (e :: ·)

/-- A schema field as a table. -/
def tableOf (v? : Option Value) : Except Fault Table :=
  match v?.map Value.unfolded with
  | some (.map t) => .ok t
  | v? => do
    let vs ← elementsOf v?
    return Table.ofEntries (← pairs 0 vs)

/-- The kind of a class, an entity if none is given. A set is looked up like a scalar. -/
def kindOf (name : Value) (v? : Option Value) : Except Fault Kind :=
  match v? with
  | none => .ok .entity
  | some (.text t) =>
    if t = Kind.entity.name then .ok .entity
    else if t = Kind.extension.name then .ok .extension
    else .error (kindFault (.text t) name)
  | some (.setOf vs) => .error (kindFault (.setOf vs) name)
  | some v => .error (if v.isKey then kindFault v name else .kindNotScalar)

/-- The text of a field, none if it is missing. -/
def textOf (v? : Option Value) : Except Fault Text :=
  match v? with
  | none => .ok []
  | some v => v.written.mapError .number

/-- The file of a class, below the folder of the manifest. -/
def fileOf (base : Disk.Path) (v? : Option Value) : Except Fault (Option Disk.Path) :=
  match v? with
  | none => .ok none
  | some (.text t) => .ok (if t.isEmpty then none else some (base.join (Disk.Path.ofText t)))
  | some v => if v.holds then .error .fileNotText else .ok none

/-- The class of an entry with a name. -/
def describe (base : Disk.Path) (t : Table) (name : Value) : Except Fault Descriptor := do
  let kind ← kindOf name (t.field? "kind")
  let nameText ← textOf (some name)
  let module ← textOf (t.field? "module")
  let file? ← fileOf base (t.field? "file")
  let db ← tableOf (t.field? "db")
  let hasOne ← tableOf (t.field? "has_one")
  let hasMany ← tableOf (t.field? "has_many")
  let manyMany ← tableOf (t.field? "many_many")
  let belongsManyMany ← tableOf (t.field? "belongs_many_many")
  let extensions ← elementsOf (t.field? "extensions")
  let owners ← elementsOf (t.field? "owners")
  return {
    name := nameText
    kind := kind
    module := module
    file? := file?
    abstract := (t.field? "abstract").any Value.holds
    db := db
    hasOne := hasOne
    hasMany := hasMany
    manyMany := manyMany
    belongsManyMany := belongsManyMany
    extensions := extensions
    owners := owners }

/-- The class of an entry of a manifest. -/
def entry (base : Disk.Path) (v : Value) : Except Fault Descriptor :=
  match v.unfolded with
  | .map t =>
    match Table.field? "name" t with
    | some name => if name.holds then describe base t name else .error (namelessFault v)
    | none => .error (namelessFault v)
  | _ => .error (namelessFault v)

/-- The classes of the entries of a manifest. -/
def entries (base : Disk.Path) : List Value → Except Fault (List Descriptor)
  | [] => .ok []
  | v :: vs =>
    match entry base v with
    | .error f => .error f
    | .ok d => (entries base vs).map (d :: ·)

/-- The classes of a manifest at a path. -/
def ofValue (path : Disk.Path) (v : Value) : Except Fault (List Descriptor) :=
  match v.unfolded with
  | .map t =>
    match elementsOf (Table.field? "classes" t) with
    | .error f => .error f
    | .ok vs => entries path.parent vs
  | _ => .error (.notMapping path)

end Docblocks.Manifest
