import EntitySql.Fault

/-!
# The dictionary grammar of predicates

Predicates may be written as nested dictionaries with one entry each: a
comparison has two operands, a conjunction or disjunction a list of
predicates, a membership test a column and its values.
-/

namespace EntitySql.Predicate

def comparisonNamed (name : String) : Option Comparator :=
  Comparator.all.find? (·.name == name)

def connectiveNamed (name : String) : Option Connective :=
  [Connective.conjunction, Connective.disjunction].find? (·.token == name)

def testMembership (tested : Predicate) (values : Value) : Except Fault Predicate :=
  match values.collection with
  | some items => .ok (.membership tested items)
  | none => .error (.condition .notCollection)

/-- Reads an operand: a column by name or a constant by value. -/
def readOperand (given : Value) : Except Fault Predicate :=
  match given with
  | .dict [(.text "col", name)] => .ok (.member name)
  | .dict [(.text "value", value)] => .ok (.constant value)
  | _ => .error (.condition (.operandShape given))

def readComparison (op : Comparator) (arguments : Value) : Except Fault Predicate :=
  match arguments with
  | .list [left, right] => do
    let left ← readOperand left
    let right ← readOperand right
    .ok (.comparison op left right)
  | _ => .error (.condition (.operandCount op.name))

/-- Reads a membership test under the operator of the given name. -/
def readMembership (op : String) (arguments : Value) : Except Fault Predicate :=
  match arguments with
  | .list [target, values] => do
    match ← readOperand target with
    | .member name => testMembership (.member name) values
    | _ => .error (.condition (.membershipColumn op))
  | _ => .error (.condition (.membershipShape op))

mutual

def ofValue (given : Value) : Except Fault Predicate :=
  match given with
  | .dict [(key, arguments)] =>
    match key with
    | .text op =>
      match comparisonNamed op, connectiveNamed op with
      | some tested, _ => readComparison tested arguments
      | none, some connective =>
        match arguments with
        | .list (first :: second :: rest) => do
          let start ← ofValue first
          ofValues connective start (second :: rest)
        | _ => .error (.condition (.predicateCount op))
      | none, none =>
        if op == "IN" then readMembership op arguments
        else if op == "NOT_IN" then (readMembership op arguments).map .negation
        else if op == "NOT" then (ofValue arguments).map .negation
        else .error (.condition (.unknownOperator op))
    | other => .error (.condition (.unknownOperator other.plainText))
  | _ => .error (.condition (.shape given))

/-- Reads further predicates and combines them from left to right. -/
def ofValues (connective : Connective) (start : Predicate) :
    List Value → Except Fault Predicate
  | [] => .ok start
  | next :: rest => do
    let right ← ofValue next
    ofValues connective (.logical connective start right) rest

end

end EntitySql.Predicate
