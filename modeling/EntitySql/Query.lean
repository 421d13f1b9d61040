import EntitySql.Dialect
import EntitySql.Entity.Type

/-!
# Queries

A query collects filters, orderings, a window, joins and possibly a function
to read from, one call at a time.  A call never changes the query that it
continues.
-/

namespace EntitySql

/-- One call of a query.  Names and types may be missing; this shows when the
query is compiled. -/
inductive QueryStep where
  | filter (predicate : Predicate) (type : Option EntityType)
  | order (member : Value) (descending : Bool)
  | skip (count : Nat)
  | take (count : Nat)
  | join (inner : Option EntityType) (outerKey innerKey : Value)
  | function (name : Value) (arguments : List Value)
  deriving Repr

/-- Calls from the latest back to the first, on top of an optional entity type. -/
structure QueryChain where
  root : Option EntityType := none
  steps : List QueryStep := []
  deriving Repr

namespace QueryChain

/-- The first type that a filter among the steps names. -/
def filterType : List QueryStep → Option EntityType
  | [] => none
  | .filter _ (some type) :: _ => some type
  | _ :: rest => filterType rest

/-- The type that rows are mapped to: that of the latest filter which names
one, else that of the root, else the fallback. -/
def rowType (chain : QueryChain) (fallback : Option EntityType) : Option EntityType :=
  (filterType chain.steps).or (chain.root.or fallback)

def push (chain : QueryChain) (step : QueryStep) : QueryChain :=
  { chain with steps := step :: chain.steps }

end QueryChain

/-- A query over one entity type in one dialect. -/
structure Query where
  dialect : Dialect
  entity : Option EntityType := none
  chain : QueryChain := {}
  deriving Repr

namespace Query

def start (dialect : Dialect) (entity : Option EntityType) : Query :=
  { dialect, entity, chain := { root := entity } }

def push (query : Query) (step : QueryStep) : Query :=
  { query with chain := query.chain.push step }

def rowType (query : Query) : Option EntityType :=
  query.chain.rowType query.entity

/-- Keeps the rows that satisfy a predicate, and possibly fixes the entity type. -/
def filter (query : Query) (predicate : Predicate) (type : Option EntityType := none) : Query :=
  query.push (.filter predicate type)

def orderBy (query : Query) (member : Value) (descending : Bool := false) : Query :=
  query.push (.order member descending)

/-- Orders further; this has to follow an ordering directly. -/
def thenBy (query : Query) (member : Value) (descending : Bool := false) :
    Except Fault Query :=
  match query.chain.steps with
  | .order _ _ :: _ => .ok (query.orderBy member descending)
  | _ => .error (.argument .misplacedOrdering)

def count (parameter : String) (value : Value) : Except Fault Nat :=
  match value with
  | .int number =>
    if 0 ≤ number then .ok number.toNat else .error (.argument (.negativeCount parameter))
  | _ => .error (.argument (.negativeCount parameter))

def skip (query : Query) (value : Value) : Except Fault Query :=
  (count "skip" value).map fun number => query.push (.skip number)

def take (query : Query) (value : Value) : Except Fault Query :=
  (count "take" value).map fun number => query.push (.take number)

def join (query : Query) (inner : Option EntityType) (outerKey innerKey : Value) : Query :=
  query.push (.join inner outerKey innerKey)

def readFrom (query : Query) (name : Value) (arguments : List Value) : Query :=
  query.push (.function name arguments)

def display (query : Query) : String :=
  "SqlQuery(entity=" ++ (query.entity.map (·.name)).getD "None" ++ ", dialect=" ++
    Value.displayText query.dialect.name ++ ")"

end Query

end EntitySql
