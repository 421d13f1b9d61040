import EntitySql.Fault
import EntitySql.Value.Dictionary

/-!
# Combined conditions

Conditions are combined by AND and OR.  Two bare values in the place of
conditions are combined as values, before any tree is built: truth values
and integers bit by bit, and dictionaries, under OR, into one dictionary.
-/

namespace EntitySql

namespace Value

/-- The bits that two integers share.  A negative number has infinitely many
bits, the complement of those of its predecessor's magnitude. -/
def sharedBits : Int → Int → Int
  | .ofNat first, .ofNat second => .ofNat (first &&& second)
  | .ofNat first, .negSucc second => .ofNat (first - (first &&& second))
  | .negSucc first, .ofNat second => .ofNat (second - (first &&& second))
  | .negSucc first, .negSucc second => .negSucc (first ||| second)

/-- The bits that at least one of two integers has. -/
def unitedBits (first second : Int) : Int :=
  -1 - sharedBits (-1 - first) (-1 - second)

def bits? : Value → Option Int
  | bool truth => some (if truth then 1 else 0)
  | int number => some number
  | _ => none

/-- Two values combined as values, where they can be. -/
def combine (connective : Connective) (left right : Value) : Option Value :=
  match connective, left, right with
  | .conjunction, bool first, bool second => some (bool (first && second))
  | .disjunction, bool first, bool second => some (bool (first || second))
  | .disjunction, dict first, dict second => some (dict (united (first ++ second)))
  | .conjunction, first, second => return int (sharedBits (← first.bits?) (← second.bits?))
  | .disjunction, first, second => return int (unitedBits (← first.bits?) (← second.bits?))

end Value

/-- Combines two conditions.  What starts a combination has to be a
condition, unless both sides are values that can be combined. -/
def Predicate.combine (connective : Connective) (left right : Predicate) :
    Except Fault Predicate :=
  match left, right with
  | .raw first, .raw second =>
    match first.combine connective second with
    | some value => .ok (.raw value)
    | none => .error (.misfit .notCondition)
  | left, right =>
    if left.isCondition then .ok (.logical connective left right)
    else .error (.misfit .notCondition)

end EntitySql
