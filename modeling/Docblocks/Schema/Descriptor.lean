import Docblocks.Value.Basic
import Docblocks.Disk.Path

/-!
Data-model classes as the manifest describes them.
-/

set_option autoImplicit false
set_option relaxedAutoImplicit false

namespace Docblocks.Schema

/-- A class is an entity of the data model or an extension of entities. -/
inductive Kind
  | entity
  | extension
  deriving DecidableEq, Repr

/-- The name of a kind in a manifest. -/
def Kind.name : Kind → Text
  | .entity => "entity".points
  | .extension => "extension".points

/-- The kind that a name means: whatever is not an extension is an entity. -/
def Kind.ofName (name : Text) : Kind :=
  if name = Kind.extension.name then .extension else .entity

/-- One class with the schema from which its tags are made. -/
structure Descriptor where
  name : Text
  kind : Kind := .entity
  module : Text := []
  file? : Option Disk.Path := none
  abstract : Bool := false
  db : Table := []
  hasOne : Table := []
  hasMany : Table := []
  manyMany : Table := []
  belongsManyMany : Table := []
  extensions : List Value := []
  owners : List Value := []
  deriving Repr, BEq

/-- Whether a class is an extension. -/
def Descriptor.isExtension (d : Descriptor) : Bool :=
  d.kind == .extension

/-- The entities of a list of classes. -/
def entities (ds : List Descriptor) : List Descriptor :=
  ds.filter fun d => !d.isExtension

/-- The extensions of a list of classes. -/
def extensions (ds : List Descriptor) : List Descriptor :=
  ds.filter fun d => d.isExtension

/-- The last class of a name in a list. -/
def lastNamed? (ds : List Descriptor) (name : Text) : Option Descriptor :=
  ds.reverse.find? fun d => d.name == name

end Docblocks.Schema
