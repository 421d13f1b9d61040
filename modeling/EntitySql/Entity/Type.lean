import EntitySql.Entity.Column
import EntitySql.Fault

/-!
# Entity types

An entity type has fields, a way of making instances and, possibly, a
declared mapping.  The metadata of a type is resolved from its own
declaration and its fields; a declaration is never taken from a base type.
-/

namespace EntitySql

/-- How instances of a type are made: a closed type takes its fields and
nothing else, a tolerant one ignores what is not a field, and a bare one has
no fields and takes any attribute.  A stuck one, which is closed and derived
from a tolerant one, asks for its fields and cannot store them.  Fields take any
value: a type whose fields check or convert theirs is made by a constructor of its own. -/
inductive Shape where
  | closed
  | tolerant
  | bare
  | stuck
  deriving DecidableEq, Repr

/-- A field; without a default it has to be given. -/
structure Field where
  name : String
  default : Option Value := none
  deriving Repr

structure Declaration where
  columns : List Column := []
  table : Option String := none
  deriving DecidableEq, Repr

/-- What a type says about its own mapping.  It is unreadable when a value that
declares no columns stands in its place. -/
inductive Mapping where
  | undeclared
  | unreadable
  | declared (declaration : Declaration)
  | complete (metadata : Metadata)
  deriving DecidableEq, Repr

/-- An entity type.  Its constants are members that are not fields and have
one value in all instances. -/
structure EntityType where
  name : String
  shape : Shape
  fields : List Field := []
  constants : Association String Value := []
  mapping : Mapping := .undeclared
  deriving Repr

/-- The latest declaration of each name, in the order in which the names first came. -/
def Declaration.latest (columns : List Column) : Association String Column :=
  Association.ofPairs (columns.map fun column => (column.name, column))

/-- The columns of a type: one for every field, declared or plain, and then
the declared ones that are not fields. -/
def Declaration.mergedColumns (fields : List String) (declared : List Column) : List Column :=
  let latest := Declaration.latest declared
  fields.map (fun name => (Association.find latest name).getD { name }) ++
    (latest.map (·.2)).filter fun column => !fields.contains column.name

namespace EntityType

def fieldNames (type : EntityType) : List String := type.fields.map (·.name)

/-- The type of the null value, which has no members. -/
def nothing : EntityType := { name := "NoneType", shape := .bare }

def given (type : Option EntityType) : Except Fault EntityType :=
  match type with
  | some type => .ok type
  | none => .error (.lacking .noType)

def metadata (type : EntityType) : Except Fault Metadata :=
  match type.mapping with
  | .complete metadata => .ok metadata
  | .unreadable => .error (.lacking (.noColumns type.name))
  | .declared declaration =>
    .ok {
      name := type.name
      table := declaration.table
      columns := Declaration.mergedColumns type.fieldNames declaration.columns }
  | .undeclared =>
    if type.shape = .bare then .error (.configuration (.noMetadata type.name))
    else .ok { name := type.name, columns := Declaration.mergedColumns type.fieldNames [] }

end EntityType

end EntitySql
