import EntitySql.Predicate

/-!
# Truth in SQL

Comparisons with the null value are neither true nor false.  What a database
makes of other values is left open, except that it compares two of them the
same way from either side.
-/

namespace EntitySql

/-- The ordering of two operands that an operator asks for. -/
def Comparator.holds : Comparator → Ordering → Bool
  | equal, ordering => ordering == .eq
  | notEqual, ordering => ordering != .eq
  | greater, ordering => ordering == .gt
  | greaterOrEqual, ordering => ordering != .lt
  | less, ordering => ordering == .lt
  | lessOrEqual, ordering => ordering != .gt

@[simp]
theorem Comparator.holds_converse (op : Comparator) (ordering : Ordering) :
    op.converse.holds ordering.swap = op.holds ordering := by
  cases op <;> cases ordering <;> rfl

namespace Sql

/-- The three truth values. -/
inductive Truth where
  | yes
  | no
  | unknown
  deriving DecidableEq, Repr

namespace Truth

def ofBool (truth : Bool) : Truth := if truth then yes else no

def negated : Truth → Truth
  | yes => no
  | no => yes
  | unknown => unknown

/-- The negation, if it is asked for. -/
def signed (truth : Truth) (negative : Bool) : Truth := if negative then truth.negated else truth

def both : Truth → Truth → Truth
  | no, _ => no
  | _, no => no
  | yes, yes => yes
  | _, _ => unknown

def either : Truth → Truth → Truth
  | yes, _ => yes
  | _, yes => yes
  | no, no => no
  | _, _ => unknown

end Truth

/-- A database, as far as conditions depend on it: what it stores, what it makes
of the values that are bound to parameters and of the numbers in a text, and how
it compares. -/
structure Database where
  Datum : Type
  ofValue : Value → Option Datum
  ofValue_null : ofValue .null = none
  ofNumber : Nat → Datum
  order : Datum → Datum → Option Ordering
  order_swap : ∀ left right, order right left = (order left right).map Ordering.swap
  order_number : ∀ left right, order (ofNumber left) (ofNumber right) = some (compare left right)

namespace Database

/-- The data of a row by the names of its columns.  A null value is no datum. -/
abbrev Row (database : Database) : Type := String → Option database.Datum

variable (database : Database)

/-- The truth of a comparison. -/
def compare (op : Comparator) (left right : Option database.Datum) : Truth :=
  match left, right with
  | some left, some right =>
    match database.order left right with
    | some ordering => .ofBool (op.holds ordering)
    | none => .unknown
  | _, _ => .unknown

def isNull (datum : Option database.Datum) : Truth := .ofBool datum.isNone

/-- Whether a datum is equal to one of several. -/
def belongs (datum : Option database.Datum) : List (Option database.Datum) → Truth
  | [] => .no
  | item :: rest => (database.compare .equal datum item).either (belongs datum rest)

variable {database}

/-- A comparison can be read from either side. -/
theorem compare_converse (op : Comparator) (left right : Option database.Datum) :
    database.compare op.converse right left = database.compare op left right := by
  cases left with
  | none => cases right <;> rfl
  | some left =>
      cases right with
      | none => rfl
      | some right =>
          simp only [compare, database.order_swap left right]
          cases database.order left right <;> simp

theorem compare_number (op : Comparator) (left right : Nat) :
    database.compare op (some (database.ofNumber left)) (some (database.ofNumber right)) =
      .ofBool (op.holds (Ord.compare left right)) := by
  simp [compare, database.order_number]

/-- A database of whole numbers, to which all other values are null. -/
def wholeNumbers : Database where
  Datum := Int
  ofValue
    | .int number => some number
    | _ => none
  ofValue_null := rfl
  ofNumber number := number
  order left right := some (Ord.compare left right)
  order_swap _ _ := congrArg some Std.OrientedOrd.eq_swap
  order_number left right := by
    simp only [Ord.compare, compareOfLessAndEq, Int.ofNat_lt, Int.ofNat_inj]

end Database

end Sql

end EntitySql
