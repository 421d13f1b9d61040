import EntitySql.Options
import EntitySql.Selection

/-!
# Filled-in forms

The library's records written back as forms, every field with its value in
the order of the fields.
-/

namespace EntitySql

/-- What stands in a field: a value, a list or another form. -/
inductive Filled where
  | value (value : Value)
  | list (items : List Filled)
  | form (fields : List (String × Filled))
  deriving Repr

namespace Filled

def text (content : String) : Filled := .value (.text content)

def nullable (content : Option String) : Filled :=
  .value (content.elim .null .text)

def bool (truth : Bool) : Filled := .value (.bool truth)

def count (number : Option Nat) : Filled :=
  .value (number.elim .null fun number => .int number)

def texts (contents : List String) : Filled := .list (contents.map text)

mutual

/-- A value in a field that holds any values: collections are taken apart
down to what is no collection. -/
def ofValue : Value → Filled
  | .list items => .list (ofValues items)
  | .tuple items => .list (ofValues items)
  | other => .value other

def ofValues : List Value → List Filled
  | [] => []
  | item :: rest => ofValue item :: ofValues rest

end

end Filled

def Options.filled (options : Options) : Filled :=
  .form [("table_name", .nullable options.tableName),
    ("select_after_mutation", .bool options.selectAfterMutation)]

def Column.filled (column : Column) : Filled :=
  .form [("name", .text column.name), ("column", .nullable column.column),
    ("key", .bool column.key), ("generated", .text column.generated.spelling),
    ("not_mapped", .bool column.notMapped)]

def Metadata.filled (metadata : Metadata) : Filled :=
  .form [("name", .text metadata.name), ("table", .nullable metadata.table),
    ("columns", .list (metadata.columns.map Column.filled))]

def SortTerm.filled (term : SortTerm) : Filled :=
  .form [("column", .text term.column), ("descending", .bool term.descending)]

def Join.filled (join : Join) : Filled :=
  .form [("table", .text join.table), ("left_column", .text join.leftColumn),
    ("right_column", .text join.rightColumn), ("kind", .text "INNER")]

def TableFunction.filled (source : TableFunction) : Filled :=
  .form [("name", .text source.name), ("args", .list (Filled.ofValues source.arguments))]

def Selection.filled (selection : Selection) : Filled :=
  .form [("table", .nullable selection.table?),
    ("function",
      match selection.source with
      | .function source => source.filled
      | .table _ => .value .null),
    ("columns", .texts selection.columns), ("where_sql", .nullable selection.condition),
    ("primary_keys", .texts selection.primaryKeys), ("skip", .count selection.skip),
    ("take", .count selection.take),
    ("order_by", .list (selection.orderBy.map SortTerm.filled)),
    ("joins", .list (selection.joins.map Join.filled))]

end EntitySql
