import EntitySql.Value

/-!
# Selections

The description of a SELECT statement before any dialect has written it.
-/

namespace EntitySql

structure SortTerm where
  column : String
  descending : Bool := false
  deriving Inhabited, Repr

/-- An inner join on the equality of two qualified columns. -/
structure Join where
  table : String
  leftColumn : String
  rightColumn : String
  deriving Inhabited, Repr

structure TableFunction where
  name : String
  arguments : List Value := []
  deriving Inhabited, Repr

inductive Source where
  | table (name : String)
  | function (source : TableFunction)
  deriving Inhabited, Repr

/-- A SELECT statement: an empty column list selects all columns, and the
condition is SQL text with its placeholders in place. -/
structure Selection where
  source : Source
  columns : List String := []
  condition : Option String := none
  primaryKeys : List String := []
  skip : Option Nat := none
  take : Option Nat := none
  orderBy : List SortTerm := []
  joins : List Join := []
  deriving Inhabited, Repr

namespace Selection

def isWindowed (selection : Selection) : Bool :=
  selection.skip.isSome || selection.take.isSome

/-- The table read from, if it is not a function. -/
def table? (selection : Selection) : Option String :=
  match selection.source with
  | .table name => some name
  | .function _ => none

/-- The table that qualifies the column names: joins make bare names ambiguous. -/
def qualifier (selection : Selection) : Option String :=
  if selection.joins.isEmpty then none else selection.table?

end Selection

end EntitySql
