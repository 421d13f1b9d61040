import EntitySql.Dialect.Identifier
import EntitySql.Dialect.Literal

/-!
# SELECT statements

The text of a selection.  The clauses come in the order columns, source,
joins, condition, ordering and window, and are separated by one blank.
-/

namespace EntitySql.Dialect

def sortTerm (dialect : Dialect) (qualifier : Option String) (term : SortTerm) : String :=
  dialect.columnText qualifier term.column ++ if term.descending then " DESC" else ""

def joinClause (dialect : Dialect) (join : Join) : String :=
  "INNER JOIN " ++ dialect.tableText join.table ++ " ON " ++
    dialect.tableText join.leftColumn ++ " = " ++ dialect.tableText join.rightColumn

/-- The parts of the window clause; none if all rows are wanted. -/
def windowParts (dialect : Dialect) (selection : Selection) : List String :=
  match dialect.backend with
  | .sqlServer =>
    if selection.isWindowed then
      (if selection.orderBy.isEmpty then ["ORDER BY (SELECT NULL)"] else []) ++
        ["OFFSET " ++ toString (selection.skip.getD 0) ++ " ROWS"] ++
        (selection.take.toList.map fun count => "FETCH NEXT " ++ toString count ++ " ROWS ONLY")
    else []
  | .postgres _ =>
    (selection.take.toList.map fun count => "LIMIT " ++ toString count) ++
      (selection.skip.toList.map fun count => "OFFSET " ++ toString count)
  | .sqlite =>
    if selection.isWindowed then
      ["LIMIT " ++ (match selection.take with | some count => toString count | none => "-1")] ++
        (selection.skip.toList.map fun count => "OFFSET " ++ toString count)
    else []

/-- The clause that cuts the window out of the rows, empty if all are wanted.
Counts of any length are written; `Selection.writable` has the limit of
`Text.Numeral.longest` digits for selections from outside. -/
def windowClause (dialect : Dialect) (selection : Selection) : String :=
  " ".intercalate (dialect.windowParts selection)

def sourceText (dialect : Dialect) (source : Source) : Except Fault String :=
  match source with
  | .table name => .ok (dialect.tableText name)
  | .function source => dialect.functionCall source

/-- The list of selected columns; a star stands for all of them. -/
def selectList (dialect : Dialect) (selection : Selection) : String :=
  let columns :=
    ", ".intercalate (selection.columns.map (dialect.selectEntry selection.qualifier))
  if columns.isEmpty then "*" else columns

/-- The clause for a condition; an empty condition has none. -/
def conditionParts (condition : Option String) : List String :=
  match condition with
  | none => []
  | some text => if text.isEmpty then [] else ["WHERE " ++ text]

def orderParts (dialect : Dialect) (selection : Selection) : List String :=
  if selection.orderBy.isEmpty then []
  else ["ORDER BY " ++
    ", ".intercalate (selection.orderBy.map (dialect.sortTerm selection.qualifier))]

def selectFrom (dialect : Dialect) (selection : Selection) (source : String) : String :=
  " ".intercalate
    (["SELECT " ++ dialect.selectList selection, "FROM " ++ source] ++
      selection.joins.map dialect.joinClause ++ conditionParts selection.condition ++
      dialect.orderParts selection ++ dialect.windowParts selection)

def writeSelect (dialect : Dialect) (selection : Selection) : Except Fault String :=
  (dialect.sourceText selection.source).map (dialect.selectFrom selection)

/-- The SELECT that reads whole rows of a table back. -/
def selectWhole (dialect : Dialect) (table condition : String) : String :=
  dialect.selectFrom
    { source := .table table, condition := some condition } (dialect.tableText table)

end EntitySql.Dialect
