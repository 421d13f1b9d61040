import EntitySql.Dialect
import EntitySql.Text.CharacterClasses
import EntitySql.Proofs.Sql.Truth
import EntitySql.Proofs.Association

/-!
# Conditions of SQL

A condition as SQL understands it, apart from its spelling, with its truth for
a row and its text, in which both sides of AND and OR stand in parentheses.
-/

namespace EntitySql.Sql

/-- What a condition compares. -/
inductive Operand where
  | column (name : String)
  | parameter (name : String)
  | number (value : Nat)
  deriving DecidableEq, Repr

/-- A condition.  Null tests and membership tests may be negated. -/
inductive Condition where
  | compare (op : Comparator) (left right : Operand)
  | nullTest (operand : Operand) (negative : Bool)
  | membership (operand : Operand) (items : List Operand) (negative : Bool)
  | both (left right : Condition)
  | either (left right : Condition)
  deriving DecidableEq, Repr

/-- The values bound to parameters. -/
abbrev Bindings := List (String × Value)

namespace Operand

/-- The datum that an operand stands for; a parameter has to be bound. -/
def datum (database : Database) (bindings : Bindings) (row : database.Row) :
    Operand → Option (Option database.Datum)
  | column name => some (row name)
  | parameter name => (Association.find bindings name).map database.ofValue
  | number value => some (some (database.ofNumber value))

section

variable (database : Database) (bindings : Bindings) (row : database.Row)

@[simp]
theorem datum_column (name : String) :
    (column name).datum database bindings row = some (row name) :=
  rfl

@[simp]
theorem datum_parameter (name : String) :
    (parameter name).datum database bindings row =
      (Association.find bindings name).map database.ofValue :=
  rfl

@[simp]
theorem datum_number (value : Nat) :
    (number value).datum database bindings row = some (some (database.ofNumber value)) :=
  rfl

end

def text (dialect : Dialect) : Operand → String
  | column name => dialect.delimiters.enclose name
  | parameter name => dialect.placeholder name
  | number value => toString value

/-- A parameter has a name, which consists of word characters. -/
def Readable : Operand → Prop
  | parameter name => name ≠ "" ∧ ∀ c ∈ name.toList, Text.isWord c = true
  | _ => True

end Operand

namespace Condition

/-- The truth of a condition for a row, if all its parameters are bound. -/
def truth (database : Database) (bindings : Bindings) (row : database.Row) :
    Condition → Option Truth
  | compare op left right => do
    let left ← left.datum database bindings row
    let right ← right.datum database bindings row
    return database.compare op left right
  | nullTest operand negative => do
    let datum ← operand.datum database bindings row
    return (database.isNull datum).signed negative
  | membership operand items negative => do
    let datum ← operand.datum database bindings row
    let items ← items.mapM (·.datum database bindings row)
    return (database.belongs datum items).signed negative
  | both left right => do
    let left ← left.truth database bindings row
    let right ← right.truth database bindings row
    return left.both right
  | either left right => do
    let left ← left.truth database bindings row
    let right ← right.truth database bindings row
    return left.either right

def text (dialect : Dialect) : Condition → String
  | compare op left right => left.text dialect ++ " " ++ op.token ++ " " ++ right.text dialect
  | nullTest operand negative =>
    operand.text dialect ++ if negative then " IS NOT NULL" else " IS NULL"
  | membership operand items negative =>
    operand.text dialect ++ (if negative then " NOT IN (" else " IN (") ++
      ", ".intercalate (items.map (·.text dialect)) ++ ")"
  | both left right => "(" ++ left.text dialect ++ ") AND (" ++ right.text dialect ++ ")"
  | either left right => "(" ++ left.text dialect ++ ") OR (" ++ right.text dialect ++ ")"

/-- The text of the condition can be read back: its parameters have proper names,
and its collections are not empty. -/
def Readable : Condition → Prop
  | compare _ left right => left.Readable ∧ right.Readable
  | nullTest operand _ => operand.Readable
  | membership operand items _ =>
    operand.Readable ∧ items ≠ [] ∧ ∀ item ∈ items, item.Readable
  | both left right => left.Readable ∧ right.Readable
  | either left right => left.Readable ∧ right.Readable

end Condition

end EntitySql.Sql
