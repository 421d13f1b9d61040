import EntitySql.Entity.Instance
import EntitySql.Text.Casing
import EntitySql.Value.Display

/-!
# Rows and entities

An entity is made from a row by matching the names in the row with columns
and members, regardless of case and underscores.
-/

namespace EntitySql

/-- The values of a row by column name, which may be any value. -/
abbrev Row := List (Value × Value)

/-- A name without its underscores and in small letters. -/
def matchingForm (name : String) : String :=
  Text.lowercase (String.ofList (name.toList.filter (· != '_')))

namespace Metadata

/-- Stores a member under a name unless the name has one. -/
def reserve (members : Association String String) (name member : String) :
    Association String String :=
  if Association.has members name then members else members ++ [(name, member)]

/-- The member that each name in a row stands for: the names of the columns
come before the names of the members, column by column. -/
def rowMembers (metadata : Metadata) : Association String String :=
  metadata.mappedColumns.foldl
    (fun members column =>
      reserve (reserve members (matchingForm column.columnName) column.name)
        (matchingForm column.name) column.name)
    []

/-- The values that a row holds for members.  Of several names for one
member the first counts, and names without a member are passed over. -/
def rowValues (members : Association String String) (row : Row) :
    Association String Value :=
  row.foldl
    (fun values entry =>
      match Association.find members (matchingForm entry.1.plainText) with
      | none => values
      | some member =>
        if Association.has values member then values else values ++ [(member, entry.2)])
    []

/-- Makes an entity of what a row holds for members. -/
def fromRow (metadata : Metadata) (construct : Constructor) (row : Row) : Except Fault Instance :=
  construct (rowValues metadata.rowMembers row)

def entityOfRow (metadata : Metadata) (type : EntityType) (row : Row) :
    Except Fault Instance :=
  metadata.fromRow type.instantiate row

end Metadata

end EntitySql
