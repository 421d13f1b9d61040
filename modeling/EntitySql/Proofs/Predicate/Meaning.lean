import EntitySql.Condition
import EntitySql.Proofs.Sql.Condition
import EntitySql.Proofs.Text.Quotation

/-!
# The meaning of predicates

A predicate compares the columns of its members with constants, in the order in
which they are written.  Equality with null is a null test, and nothing belongs to
an empty collection.
-/

namespace EntitySql

open Sql (Truth Database)

/-- The name of the column that the rendering of a member denotes, if it is one quoted
identifier. -/
def Scope.columnName (scope : Scope) (name : Value) : Option String :=
  (scope.column name).toOption.bind scope.dialect.delimiters.contentOf

/-- The truth of a comparison with null. -/
def Comparator.nullTruth (op : Comparator) {database : Database} (datum : Option database.Datum) :
    Option Truth :=
  match op with
  | equal => some (database.isNull datum)
  | notEqual => some (database.isNull datum).negated
  | _ => none

namespace Predicate

/-- The tree of a predicate, with the dictionaries in it read by the dictionary grammar. -/
def expand : Predicate → Except Fault Predicate
  | logical connective left right => do
    let left ← left.expand
    let right ← right.expand
    return logical connective left right
  | raw (.dict entries) => ofValue (.dict entries)
  | other => .ok other

/-- The members that a tree names. -/
def memberNames : Predicate → List Value
  | member name => [name]
  | comparison _ left right => left.memberNames ++ right.memberNames
  | logical _ left right => left.memberNames ++ right.memberNames
  | membership tested _ => tested.memberNames
  | negation operand => operand.memberNames
  | _ => []

variable (scope : Scope) (database : Database) (row : database.Row)

/-- The truth of a tree for a row, if the tree has a meaning. -/
def truth : Predicate → Option Truth
  | logical connective left right => do
    let left ← left.truth
    let right ← right.truth
    return match connective with
      | .conjunction => left.both right
      | .disjunction => left.either right
  | comparison op (member name) (constant value) => do
    let column ← scope.columnName name
    match value with
    | .null => op.nullTruth (row column)
    | value => some (database.compare op (row column) (database.ofValue value))
  | comparison op (constant value) (member name) => do
    let column ← scope.columnName name
    match value with
    | .null => op.nullTruth (row column)
    | value => some (database.compare op (database.ofValue value) (row column))
  | membership (member name) values => do
    let column ← scope.columnName name
    return database.belongs (row column) (values.map database.ofValue)
  | negation (membership (member name) values) => do
    let column ← scope.columnName name
    return (database.belongs (row column) (values.map database.ofValue)).negated
  | _ => none

/-- The truth of a predicate for a row, if it has a meaning. -/
def meaning (predicate : Predicate) : Option Truth :=
  predicate.expand.toOption.bind (truth scope database row)

end Predicate

namespace Oriented

variable (scope : Scope) (database : Database) (row : database.Row)

/-- The truth of a comparison with the member on the left. -/
def truth (oriented : Oriented) : Option Truth := do
  let column ← scope.columnName oriented.member
  match oriented.constant with
  | .null => oriented.op.nullTruth (row column)
  | value => some (database.compare oriented.op (row column) (database.ofValue value))

end Oriented

variable {scope : Scope} {database : Database} {row : database.Row}

theorem Comparator.nullTruth_converse (op : Comparator) (datum : Option database.Datum) :
    op.converse.nullTruth datum = op.nullTruth datum := by
  cases op <;> rfl

theorem Predicate.truth_membership (name : Value) (values : List Value) :
    (membership (.member name) values).truth scope database row =
      (scope.columnName name).map fun column =>
        (database.belongs (row column) (values.map database.ofValue)).signed false := by
  rw [truth]
  cases scope.columnName name <;> rfl

theorem Predicate.truth_nonmembership (name : Value) (values : List Value) :
    (negation (membership (.member name) values)).truth scope database row =
      (scope.columnName name).map fun column =>
        (database.belongs (row column) (values.map database.ofValue)).signed true := by
  rw [truth]
  cases scope.columnName name <;> rfl

theorem Predicate.member_mem_memberNames {op : Comparator} {left right : Predicate}
    {oriented : Oriented} (isOriented : memberFirst op left right = .ok oriented) :
    oriented.member ∈ (comparison op left right).memberNames := by
  unfold memberFirst at isOriented
  split at isOriented
  · cases isOriented
    simp [memberNames]
  · cases isOriented
    simp [memberNames]
  · cases isOriented

/-- Turning a comparison around, so that its member stands on the left, keeps its truth. -/
theorem Predicate.truth_comparison {op : Comparator} {left right : Predicate}
    {oriented : Oriented} (isOriented : memberFirst op left right = .ok oriented) :
    (comparison op left right).truth scope database row = oriented.truth scope database row := by
  unfold memberFirst at isOriented
  split at isOriented
  · cases isOriented
    rfl
  · rename_i value name
    cases isOriented
    rw [truth, Oriented.truth]
    cases scope.columnName name with
    | none => rfl
    | some column =>
        cases value with
        | null => exact (op.nullTruth_converse (row column)).symm
        | _ => exact congrArg some (Database.compare_converse op _ _).symm
  · cases isOriented

end EntitySql
