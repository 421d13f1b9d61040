import EntitySql.Association
import EntitySql.Value

/-!
# Columns and metadata

The mapping of the members of an entity to the columns of a table.
-/

namespace EntitySql

/-- How the database produces the value of a column. -/
inductive Generation where
  | none
  | identity
  | computed
  deriving DecidableEq, Repr, Inhabited

namespace Generation

def all : List Generation := [none, identity, computed]

def spelling : Generation → String
  | none => "none"
  | identity => "identity"
  | computed => "computed"

def ofSpelling (spelling : String) : Option Generation :=
  all.find? (·.spelling == spelling)

end Generation

/-- The override if it has any text, else the name itself. -/
def overriding (override : Option String) (name : String) : String :=
  match override with
  | none => name
  | some text => if text.isEmpty then name else text

/-- The mapping of one member. -/
structure Column where
  name : String
  column : Option String := none
  key : Bool := false
  generated : Generation := .none
  notMapped : Bool := false
  deriving DecidableEq, Repr, Inhabited

namespace Column

def columnName (column : Column) : String := overriding column.column column.name

/-- Whether the database counts the value up. -/
def isIdentity (column : Column) : Bool := column.generated = .identity

/-- Whether the database produces the value. -/
def isGenerated (column : Column) : Bool := column.generated ≠ .none

end Column

/-- The resolved mapping of an entity type. -/
structure Metadata where
  name : String
  table : Option String := none
  columns : List Column := []
  deriving DecidableEq, Repr, Inhabited

namespace Metadata

def tableName (metadata : Metadata) : String := overriding metadata.table metadata.name

def mappedColumns (metadata : Metadata) : List Column :=
  metadata.columns.filter fun column => !column.notMapped

def keyColumns (metadata : Metadata) : List Column :=
  metadata.mappedColumns.filter (·.key)

def find? (metadata : Metadata) (member : String) : Option Column :=
  metadata.columns.find? (·.name == member)

/-- The column of a member; a member without a mapping is its own column. -/
def columnNameOf (metadata : Metadata) (member : String) : String :=
  match metadata.find? member with
  | some column => column.columnName
  | none => member

/-- The column of a member given as any value; only texts are looked up. -/
def columnOf (metadata : Metadata) (member : Value) : Value :=
  match member with
  | .text name => .text (metadata.columnNameOf name)
  | other => other

end Metadata

end EntitySql
