import EntitySql.Dialect.LooseName
import EntitySql.Entity.Column
import EntitySql.Parameters
import EntitySql.Predicate.Grammar

/-!
# Conditions

Predicates as SQL text.  Constants become parameters in the
order in which they stand in the tree, from left to right; a tree that has
no meaning in SQL is refused where the first such part is met.
-/

namespace EntitySql

/-- What rendering takes from its surroundings. -/
structure Scope where
  dialect : Dialect
  metadata : Option Metadata := none
  qualifier : Option String := none

namespace Scope

/-- The column that a named member stands for.  Members that are declared
as not mapped have none, and without metadata every member is its own column. -/
def columnOf (scope : Scope) (member : String) : Except Fault String :=
  match scope.metadata with
  | none => .ok member
  | some metadata =>
    if (metadata.find? member).any (·.notMapped) then
      .error (.condition (.unmappedMember member))
    else .ok (metadata.columnNameOf member)

def storedName (scope : Scope) (name : Value) : Except Fault Value :=
  match name with
  | .text member => (scope.columnOf member).map .text
  | other => .ok other

/-- The rendered column of a member.  Behind a table a name that is no text
is written plainly; without one it is left to the dialect. -/
def column (scope : Scope) (name : Value) : Except Fault String :=
  match name with
  | .text member => (scope.columnOf member).map (scope.dialect.columnText scope.qualifier)
  | other =>
    if scope.qualifier.any (!·.isEmpty) then
      .ok (scope.dialect.columnText scope.qualifier other.plainText)
    else (scope.dialect.identifierOf other).map Value.plainText

def bind (scope : Scope) (value : Value) : Action Parameters String := do
  let name ← Parameters.bindFresh value
  return scope.dialect.placeholder name

def bindAll (scope : Scope) : List Value → Action Parameters (List String)
  | [] => return []
  | value :: rest => do
    let placeholder ← scope.bind value
    let placeholders ← scope.bindAll rest
    return placeholder :: placeholders

end Scope

/-- A comparison with the member on the left. -/
structure Oriented where
  member : Value
  op : Comparator
  constant : Value
  deriving Repr

namespace Predicate

def memberFirst (op : Comparator) (left right : Predicate) : Except Fault Oriented :=
  match left, right with
  | .member name, .constant value => .ok ⟨name, op, value⟩
  | .constant value, .member name => .ok ⟨name, op.converse, value⟩
  | _, _ => .error (.condition .orientation)

def memberName : Predicate → Except Fault Value
  | .member name => .ok name
  | other => .error (.lacking (.notMember other))

end Predicate

namespace Scope

def compare (scope : Scope) (oriented : Oriented) : Action Parameters String := do
  let column ← Action.ofExcept (scope.column oriented.member)
  match oriented.constant with
  -- in SQL nothing equals null, and nothing is ordered by it
  | .null =>
    match oriented.op with
    | .equal => return column ++ " IS NULL"
    | .notEqual => return column ++ " IS NOT NULL"
    | op => Action.fail (.condition (.nullOrder op))
  | value =>
    let placeholder ← scope.bind value
    return column ++ " " ++ oriented.op.token ++ " " ++ placeholder

def belongs (scope : Scope) (negated : Bool) (tested : Predicate) (values : List Value) :
    Action Parameters String := do
  let member ← Action.ofExcept tested.memberName
  let column ← Action.ofExcept (scope.column member)
  if values.isEmpty then
    -- SQL has no empty list
    return if negated then "1 = 1" else "1 = 0"
  else
    let placeholders ← scope.bindAll values
    return column ++ (if negated then " NOT IN (" else " IN (") ++
      ", ".intercalate placeholders ++ ")"

/-- Renders a predicate, reading bare values in it with `ofRaw`. -/
def renderWith (scope : Scope) (ofRaw : Value → Action Parameters String) :
    Predicate → Action Parameters String
  | .logical connective left right => do
    let first ← scope.renderWith ofRaw left
    let second ← scope.renderWith ofRaw right
    return "(" ++ first ++ ") " ++ connective.token ++ " (" ++ second ++ ")"
  | .comparison op left right => do
    let oriented ← Action.ofExcept (Predicate.memberFirst op left right)
    scope.compare oriented
  | .membership tested values => scope.belongs false tested values
  | .negation (.membership tested values) => scope.belongs true tested values
  | .raw value => ofRaw value
  | other => Action.fail (.condition (.unsupported other))

def renderTree (scope : Scope) (predicate : Predicate) : Action Parameters String :=
  scope.renderWith (fun value => Action.fail (.condition (.unsupported (.raw value))))
    predicate

def render (scope : Scope) (predicate : Predicate) : Action Parameters String :=
  scope.renderWith
    (fun value =>
      match value with
      | .dict _ => do
        let tree ← Action.ofExcept (Predicate.ofValue value)
        scope.renderTree tree
      | other => Action.fail (.condition (.unsupported (.raw other))))
    predicate

def singleComparison (scope : Scope) (predicate : Predicate) :
    Except Fault (Value × Comparator × Value) := do
  let tree ←
    match predicate with
    | .raw (.dict entries) => Predicate.ofValue (.dict entries)
    | other => .ok other
  match tree with
  | .comparison op left right =>
    let oriented ← Predicate.memberFirst op left right
    let column ← scope.storedName oriented.member
    .ok (column, oriented.op, oriented.constant)
  | _ => .error (.condition .notSingleComparison)

end Scope

end EntitySql
