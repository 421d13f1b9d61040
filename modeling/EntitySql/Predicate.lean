import EntitySql.Value

/-!
# Predicates

The condition trees that callers hand over.  A tree is built from members of
an entity and constants; not every tree has a meaning in SQL, and which ones
do is decided when it is rendered.
-/

namespace EntitySql

inductive Comparator where
  | equal
  | notEqual
  | greater
  | greaterOrEqual
  | less
  | lessOrEqual
  deriving DecidableEq, Repr

namespace Comparator

def token : Comparator → String
  | equal => "="
  | notEqual => "!="
  | greater => ">"
  | greaterOrEqual => ">="
  | less => "<"
  | lessOrEqual => "<="

def all : List Comparator :=
  [equal, notEqual, greater, greaterOrEqual, less, lessOrEqual]

def ofToken (spelling : String) : Option Comparator :=
  all.find? (·.token == spelling)

/-- The operator that holds of swapped operands. -/
def converse : Comparator → Comparator
  | equal => equal
  | notEqual => notEqual
  | greater => less
  | greaterOrEqual => lessOrEqual
  | less => greater
  | lessOrEqual => greaterOrEqual

end Comparator

/-- The two ways to combine predicates. -/
inductive Connective where
  | conjunction
  | disjunction
  deriving DecidableEq, Repr

def Connective.token : Connective → String
  | conjunction => "AND"
  | disjunction => "OR"

/-- A condition tree.  `raw` holds a bare value where a tree is expected; a
dictionary there is read by the dictionary grammar.  That grammar takes any
value for the name of a member, so names are values here, texts as a rule.
What a membership test tests is a member as a rule. -/
inductive Predicate where
  | member (name : Value)
  | constant (value : Value)
  | raw (value : Value)
  | comparison (op : Comparator) (left right : Predicate)
  | logical (connective : Connective) (left right : Predicate)
  | membership (tested : Predicate) (values : List Value)
  | negation (operand : Predicate)
  deriving Inhabited, Repr

namespace Predicate

/-- What an operand of a comparison stands for: a bare value is a constant. -/
def asOperand : Predicate → Predicate
  | raw value => constant value
  | node => node

/-- What a name stands for: a text names a member, and any other value is itself. -/
def named : Value → Predicate
  | .text name => member (.text name)
  | other => raw other

def compare (op : Comparator) (left right : Predicate) : Predicate :=
  comparison op left.asOperand right.asOperand

def test (member : Value) (op : Comparator) (value : Value) : Predicate :=
  comparison op (.member member) (.constant value)

/-- Whether the tree is a truth value and may start a conjunction or disjunction. -/
def isCondition : Predicate → Bool
  | comparison .. => true
  | logical .. => true
  | membership .. => true
  | negation _ => true
  | _ => false

end Predicate

end EntitySql
