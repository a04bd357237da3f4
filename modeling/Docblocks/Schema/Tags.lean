import Docblocks.Schema.Descriptor
import Docblocks.Schema.FieldType
import Docblocks.Value.Written

/-!
The tags of a class: five groups of documentation tags made from its schema, and the payload that
holds them as comment lines, with a blank comment line between any two groups.
-/

set_option autoImplicit false
set_option relaxedAutoImplicit false

namespace Docblocks.Schema

open Docblocks.Text (join)
open Docblocks.Number (TooLong)

/-- Why no tags can be made from a schema. The last way is left to providers of other tags than the
ones here: their faults have any wording, and may be of the kinds that a batch contains. -/
inductive TagFault
  | fieldTypeNotText
  | fieldTypeBytes
  | ownerNotText
  | number (fault : TooLong)
  | other (contained : Bool) (wording : Text)
  deriving DecidableEq, Repr

/-- The text of a value in a tag. -/
def valueText (v : Value) : Except TagFault Text :=
  v.written.mapError .number

/-- The tags of each element of a list, one after another. -/
def tagsOf {α : Type} (tags : α → Except TagFault (List Text)) :
    List α → Except TagFault (List Text)
  | [] => .ok []
  | a :: rest =>
    match tags a with
    | .error f => .error f
    | .ok ts => (tagsOf tags rest).map (ts ++ ·)

/-- The scalar type of a field type, which has to be a text. -/
def fieldScalar : Value → Except TagFault ScalarType
  | .text t => .ok (scalarType t)
  | .bytes _ => .error .fieldTypeBytes
  | _ => .error .fieldTypeNotText

/-- The tag of a database field. -/
def fieldTags (e : Value × Value) : Except TagFault (List Text) :=
  match fieldScalar e.2 with
  | .error f => .error f
  | .ok type =>
    (valueText e.1).map fun key => ["@property ".points ++ type.name ++ " $".points ++ key]

/-- The names of the owners of an extension, which have to be texts. -/
def ownerNames : List Value → Except TagFault (List Text)
  | [] => .ok []
  | .text t :: rest => (ownerNames rest).map (t :: ·)
  | _ :: _ => .error .ownerNotText

/-- The tag of the owner of an extension: any of the owners, or the extension itself. -/
def ownerTags (d : Descriptor) : Except TagFault (List Text) :=
  if d.isExtension && !d.owners.isEmpty then
    (ownerNames d.owners).map fun names =>
      ["@property ".points ++ join "|".points (names ++ [d.name]) ++ " $owner".points]
  else .ok []

/-- The tags of the database fields, then of the owner. -/
def propertyTags (d : Descriptor) : Except TagFault (List Text) :=
  match tagsOf fieldTags d.db with
  | .error f => .error f
  | .ok fields => (ownerTags d).map (fields ++ ·)

/-- The key and the accessor of a relation to one class. -/
def relationTags (e : Value × Value) : Except TagFault (List Text) :=
  match valueText e.1 with
  | .error f => .error f
  | .ok name =>
    (valueText e.2).map fun target =>
      ["@property int $".points ++ name ++ "ID".points,
        "@method ".points ++ target ++ " ".points ++ name ++ "()".points]

/-- Two tags for each relation to one class. -/
def hasOneTags (d : Descriptor) : Except TagFault (List Text) :=
  tagsOf relationTags d.hasOne

/-- The accessor of a relation to a list of classes. -/
def listTags (listType : String) (e : Value × Value) : Except TagFault (List Text) :=
  match valueText e.2 with
  | .error f => .error f
  | .ok target =>
    (valueText e.1).map fun name =>
      ["@method ".points ++ listType.points ++ "|".points ++ target ++ "[] ".points ++ name ++
        "()".points]

/-- The tags of the relations to many classes. -/
def hasManyTags (d : Descriptor) : Except TagFault (List Text) :=
  tagsOf (listTags "DataList") d.hasMany

/-- The tags of the relations between many and many classes, from both sides. -/
def manyManyTags (d : Descriptor) : Except TagFault (List Text) :=
  tagsOf (listTags "ManyManyList") (d.manyMany ++ d.belongsManyMany)

/-- The tag of an extension that is mixed in. -/
def mixinTag (v : Value) : Except TagFault (List Text) :=
  (valueText v).map fun t => ["@mixin ".points ++ t]

/-- The extensions that an entity mixes in. -/
def mixinTags (d : Descriptor) : Except TagFault (List Text) :=
  if d.isExtension then .ok [] else tagsOf mixinTag d.extensions

/-- The five groups of tags of a class, in order. -/
def tagGroups (d : Descriptor) : Except TagFault (List (List Text)) := do
  let property ← propertyTags d
  let hasOne ← hasOneTags d
  let hasMany ← hasManyTags d
  let manyMany ← manyManyTags d
  let mixin ← mixinTags d
  return [property, hasOne, hasMany, manyMany, mixin]

/-- One tag as a comment line. -/
def tagLine (tag : Text) : Text :=
  " * ".points ++ tag ++ "\n".points

/-- Groups of tags as comment lines; empty groups leave no trace. -/
def payloadOf (groups : List (List Text)) : Text :=
  join " * \n".points ((groups.filter (!·.isEmpty)).map fun g => g.flatMap tagLine)

/-- The payload of a class. -/
def payload (d : Descriptor) : Except TagFault Text :=
  (tagGroups d).map payloadOf

end Docblocks.Schema
