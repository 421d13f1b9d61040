import EntitySql.Entity.Column

/-!
# Statement options
-/

namespace EntitySql

/-- What a caller may ask of a single statement. -/
structure Options where
  tableName : Option String := none
  selectAfterMutation : Bool := false
  deriving DecidableEq, Repr, Inhabited

/-- The table that a statement addresses: the one asked for or the declared one. -/
def Options.tableOr (options : Options) (declared : String) : String :=
  overriding options.tableName declared

end EntitySql
