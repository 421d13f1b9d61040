import EntitySql.Dialect
import EntitySql.Value.Display

/-!
# Identifiers

Quoting of column and table names.  A name that is quoted already stays as
it is, so quoting twice is the same as quoting once; the empty name stays
empty.
-/

namespace EntitySql.Dialect

/-- Whether a name counts as quoted. -/
def isDelimited (dialect : Dialect) (name : String) : Bool := dialect.delimiters.enclosed name

def identifier (dialect : Dialect) (name : String) : String :=
  if name.isEmpty || dialect.isDelimited name then name
  else dialect.delimiters.enclose (dialect.fold name)

def segments (name : String) : List String :=
  (name.toList.splitOn '.').map String.ofList

/-- Quotes each segment of a dotted table name. -/
def tableText (dialect : Dialect) (name : String) : String :=
  ".".intercalate ((segments name).map dialect.identifier)

/-- Quotes a column name, behind its table if there is one to name. -/
def columnText (dialect : Dialect) (qualifier : Option String) (column : String) : String :=
  match qualifier with
  | none => dialect.identifier column
  | some table =>
    if table.isEmpty then dialect.identifier column
    else dialect.tableText (table ++ "." ++ column)

/-- An entry of the select list.  Where folding changes the name, an alias
gives the declared name back. -/
def selectEntry (dialect : Dialect) (qualifier : Option String) (column : String) :
    String :=
  let rendered := dialect.columnText qualifier column
  if column.isEmpty || dialect.isDelimited column || dialect.fold column == column then rendered
  else rendered ++ " AS \"" ++ Text.doubled '"' column ++ "\""

/-- An entry of the select list for a name that may be missing.  Behind a
table a missing name is shown like the null value; without one it stays missing. -/
def selectEntryOf (dialect : Dialect) (qualifier column : Option String) : Option String :=
  match column, qualifier with
  | some name, _ => some (dialect.selectEntry qualifier name)
  | none, some table =>
    if table.isEmpty then none
    else some (dialect.tableText (table ++ "." ++ Value.null.display))
  | none, none => none

/-- An expression for the identity value that the last insert generated in a column. -/
def identityExpression (dialect : Dialect) (table column : String) : String :=
  match dialect.backend with
  | .sqlServer => "SCOPE_IDENTITY()"
  | .sqlite => "last_insert_rowid()"
  | .postgres _ =>
    "currval(pg_get_serial_sequence('" ++ Text.doubled '\'' (dialect.tableText table) ++
      "', '" ++ Text.doubled '\'' (dialect.fold column) ++ "'))"

end EntitySql.Dialect
