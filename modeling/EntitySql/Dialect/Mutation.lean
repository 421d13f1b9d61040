import EntitySql.Dialect.Select

/-!
# INSERT, UPDATE and DELETE statements

The texts of mutations from column names and the parameters bound to them.
-/

namespace EntitySql.Dialect

def equation (dialect : Dialect) (pair : String × String) : String :=
  dialect.identifier pair.1 ++ " = " ++ dialect.placeholder pair.2

def equations (dialect : Dialect) (pairs : List (String × String)) : String :=
  " AND ".intercalate (pairs.map dialect.equation)

/-- The text of an INSERT from its rendered parts; without columns the row
takes its defaults. -/
def insertLine (target : String) (columns placeholders : List String) : String :=
  if columns.isEmpty then "INSERT INTO " ++ target ++ " DEFAULT VALUES"
  else
    "INSERT INTO " ++ target ++ " (" ++ ", ".intercalate columns ++ ") VALUES (" ++
      ", ".intercalate placeholders ++ ")"

def writeInsert (dialect : Dialect) (table : String) (columns parameters : List String) :
    String :=
  insertLine (dialect.tableText table) (columns.map dialect.identifier)
    (parameters.map dialect.placeholder)

/-- The condition of a mutation: the rendered one if it has any text, else
the equations. -/
def chosenCondition (condition : Option String) (equations : String) : String :=
  match condition with
  | none => equations
  | some text => if text.isEmpty then equations else text

def whereSuffix (condition : String) : String :=
  if condition.isEmpty then "" else " WHERE " ++ condition

def updateLine (target : String) (assignments : List String) (condition : String) : String :=
  "UPDATE " ++ target ++ " SET " ++ ", ".intercalate assignments ++ whereSuffix condition

/-- The text of an UPDATE, with a SELECT of the updated row behind it if
that is wanted and the row has keys. -/
def writeUpdate (dialect : Dialect) (table : String)
    (assignments pairs : List (String × String)) (readsBack : Bool)
    (keys : List (String × String)) (condition : Option String) : String :=
  updateLine (dialect.tableText table) (assignments.map dialect.equation)
      (chosenCondition condition (dialect.equations pairs)) ++
    if readsBack && !keys.isEmpty then "; " ++ dialect.selectWhole table (dialect.equations keys)
    else ""

def deleteLine (target condition : String) : String :=
  "DELETE FROM " ++ target ++ whereSuffix condition

def writeDelete (dialect : Dialect) (table : String) (pairs : List (String × String))
    (condition : Option String) : String :=
  deleteLine (dialect.tableText table) (chosenCondition condition (dialect.equations pairs))

end EntitySql.Dialect
