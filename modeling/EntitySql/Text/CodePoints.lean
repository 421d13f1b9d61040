/-!
# Sets of code points

Two compact descriptions of a set of code points, and a compact description
of a map between code points.  Membership is decided by one pass over the
description, which stops at the first entry beyond the code point asked for.
-/

namespace EntitySql.Text

/-- A set of code points as the increasing list of points where membership
changes: the first entry is inside, the second is outside again, and so on. -/
abbrev Boundaries := List Nat

/-- A point is inside when an odd number of changes lie at or before it. -/
def Boundaries.contains (boundaries : Boundaries) (point : Nat) : Bool :=
  (boundaries.takeWhile (· ≤ point)).length % 2 == 1

/-- Every `step`-th code point from `first` to `last`. -/
structure Stride where
  first : Nat
  last : Nat
  step : Nat
  deriving Repr

def Stride.contains (stride : Stride) (point : Nat) : Bool :=
  stride.first ≤ point && point ≤ stride.last && (point - stride.first) % stride.step == 0

/-- A stride whose members all move by one distance, `first` going to `target`. -/
structure Shift extends Stride where
  target : Nat
  deriving Repr

/-- The image of a point under the first shift that has it as a member. -/
def shifted (shifts : List Shift) (point : Nat) : Option Nat :=
  (shifts.find? (·.contains point)).map fun shift => shift.target + (point - shift.first)

end EntitySql.Text
