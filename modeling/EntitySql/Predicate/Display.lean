import EntitySql.Predicate
import EntitySql.Value.Display

/-!
# Displayed predicates

The text of a predicate inside a message: every node by its kind and parts.
-/

namespace EntitySql

/-- The name of a comparison operator in the dictionary grammar. -/
def Comparator.name : Comparator → String
  | equal => "EQ"
  | notEqual => "NE"
  | greater => "GT"
  | greaterOrEqual => "GTE"
  | less => "LT"
  | lessOrEqual => "LTE"

def Comparator.display (op : Comparator) : String :=
  "<ComparisonOp." ++ op.name ++ ": " ++ Value.displayText op.token ++ ">"

def Connective.display (connective : Connective) : String :=
  "<LogicalOp." ++ connective.token ++ ": " ++ Value.displayText connective.token ++ ">"

def Predicate.display : Predicate → String
  | member name => "Member(name=" ++ name.display ++ ")"
  | constant value => "Constant(value=" ++ value.display ++ ")"
  | raw value => value.display
  | comparison op left right =>
    "Comparison(op=" ++ op.display ++ ", left=" ++ left.display ++ ", right=" ++
      right.display ++ ")"
  | logical connective left right =>
    "Logical(op=" ++ connective.display ++ ", left=" ++ left.display ++ ", right=" ++
      right.display ++ ")"
  | membership tested values =>
    "Membership(member=" ++ tested.display ++ ", values=" ++
      (Value.tuple values).display ++ ")"
  | negation operand => "Not(operand=" ++ operand.display ++ ")"

end EntitySql
