import EntitySql.Entity.Type

/-!
# Sample entity types

A small set of types that between them use every feature of the mapping:
identity and computed columns, composite keys, renamed and unmapped members,
schema-qualified tables, types without a declaration and complete metadata.
-/

namespace EntitySql.Samples

def field (name : String) (default : Value) : Field := ⟨name, some default⟩

/-- An identity key, a computed column and a member that is not mapped. -/
def person : EntityType where
  name := "Person"
  shape := .closed
  fields := [field "Id" .null, field "FirstName" (.text ""), field "LastName" (.text ""),
    field "Age" (.int 0), field "CreateDateUTC" .null, field "FullName" (.text "")]
  mapping := .declared {
    table := some "Person"
    columns := [{ name := "Id", key := true, generated := .identity },
      { name := "CreateDateUTC", generated := .computed },
      { name := "FullName", notMapped := true }] }

/-- A composite key, declared in another order than the fields. -/
def citizen : EntityType where
  name := "Citizen"
  shape := .closed
  fields := [field "Id" (.int 0), field "SSN" (.text ""), field "Name" (.text "")]
  mapping := .declared {
    table := some "Citizen"
    columns := [{ name := "SSN", key := true }, { name := "Id", key := true }] }

/-- A table in a schema and a renamed column. -/
def widget : EntityType where
  name := "Widget"
  shape := .closed
  fields := [field "Id" (.int 0), field "DisplayName" (.text ""), field "Price" (.float "0.0")]
  mapping := .declared {
    table := some "dbo.Widgets"
    columns := [{ name := "Id", key := true },
      { name := "DisplayName", column := some "display_name" }] }

/-- A table named differently from the type. -/
def order : EntityType where
  name := "Order"
  shape := .closed
  fields := [field "OrderId" .null, field "PersonId" (.int 0), field "Total" (.float "0.0")]
  mapping := .declared {
    table := some "Orders"
    columns := [{ name := "OrderId", key := true, generated := .identity }] }

/-- A type without any declaration, and so without keys. -/
def auditEntry : EntityType where
  name := "AuditEntry"
  shape := .closed
  fields := [field "Message" (.text ""), field "Level" (.int 0)]

/-- Complete metadata, and fields that have to be given and take any value. -/
def account : EntityType where
  name := "Account"
  shape := .tolerant
  fields := [⟨"AccountId", none⟩, ⟨"Owner", none⟩, field "Balance" (.float "0.0")]
  mapping := .complete {
    name := "Account"
    table := some "accounts"
    columns := [{ name := "AccountId", column := some "account_id", key := true },
      { name := "Owner", column := some "owner_name" }, { name := "Balance" }] }

def all : List (String × EntityType) :=
  [person, citizen, widget, order, auditEntry, account].map fun type => (type.name, type)

end EntitySql.Samples
