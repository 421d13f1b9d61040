import EntitySql.Condition
import EntitySql.Dialect.Select
import EntitySql.Form.Records
import EntitySql.Query

/-!
# Compiling queries

A query becomes a selection, and the selection the text of a SELECT.  Of
several calls that set a window or a function the latest counts; orderings
and joins apply in the order of the calls; the filters are rendered from
the latest to the first and joined by AND in that order.
-/

namespace EntitySql

/-- A compiled statement: its text and the parameters that its placeholders name. -/
structure Compiled where
  sql : String
  parameters : List (String × Value)
  dialect : String
  deriving Repr

def Compiled.values (compiled : Compiled) : List Value := compiled.parameters.map (·.2)

namespace QueryChain

/-- What the walk along the calls has met so far. -/
structure Collected where
  skip : Option Nat := none
  take : Option Nat := none
  function : Option TableFunction := none
  orderings : List (Value × Bool) := []
  joins : List (Option EntityType × Value × Value) := []
  filters : List Predicate := []
  type : Option EntityType := none

/-- Takes up the next call.  The latest call comes first: so a window, a function or a type that
was met before stays, orderings and joins are put in front, and filters behind. -/
def Collected.add (collected : Collected) : QueryStep → Except Fault Collected
  | .skip count => .ok { collected with skip := collected.skip.or (some count) }
  | .take count => .ok { collected with take := collected.take.or (some count) }
  | .function name arguments =>
    match collected.function with
    | some _ => .ok collected
    | none => do
      let function ← (TableFunction.ofFields
        [(.text "name", name), (.text "args", .tuple arguments)]).toExcept
      .ok { collected with function := some function }
  | .order member descending =>
    .ok { collected with orderings := (member, descending) :: collected.orderings }
  | .join inner outerKey innerKey =>
    .ok { collected with joins := (inner, outerKey, innerKey) :: collected.joins }
  | .filter predicate type =>
    .ok { collected with
      filters := collected.filters ++ [predicate]
      type := collected.type.or type }

/-- The walk from the latest call back to the first. -/
def collect (steps : List QueryStep) : Except Fault Collected := steps.foldlM Collected.add {}

/-- The term of an ordering by a member, whose column has to be a text. -/
def sortTerm (metadata : Metadata) (ordering : Value × Bool) : Except Fault SortTerm :=
  (SortTerm.ofFields
    [(.text "column", metadata.columnOf ordering.1),
      (.text "descending", .bool ordering.2)]).toExcept

/-- Joins conditions by AND, each one with all that follow it. -/
def conjoin : List String → Option String
  | [] => none
  | condition :: rest =>
    match conjoin rest with
    | none => some condition
    | some others => some ("(" ++ condition ++ ") AND (" ++ others ++ ")")

def renderAll (scope : Scope) : List Predicate → Action Parameters (List String)
  | [] => return []
  | predicate :: rest => do
    let condition ← scope.render predicate
    let conditions ← renderAll scope rest
    return condition :: conditions

/-- The join with another type, from the columns of the two members. -/
def resolveJoin (table : String) (metadata : Metadata)
    (step : Option EntityType × Value × Value) : Except Fault Join := do
  let (innerType, outerKey, innerKey) := step
  let inner ← (← EntityType.given innerType).metadata
  .ok {
    table := inner.tableName
    leftColumn := table ++ "." ++ (metadata.columnOf outerKey).plainText
    rightColumn := inner.tableName ++ "." ++ (inner.columnOf innerKey).plainText }

def selection (chain : QueryChain) (dialect : Dialect) (fallback : Option EntityType)
    (options : Options) : Action Parameters Selection := do
  let collected ← Action.ofExcept (collect chain.steps)
  match collected.type.or (chain.root.or fallback) with
  | none => Action.fail (.configuration .unresolvedEntity)
  | some type =>
    let metadata ← Action.ofExcept type.metadata
    let table := options.tableOr metadata.tableName
    let qualifier :=
      if collected.joins.isEmpty || collected.function.isSome then none else some table
    let scope : Scope := { dialect, metadata := some metadata, qualifier }
    let conditions ← renderAll scope collected.filters
    let joinClauses ← Action.ofExcept (collected.joins.mapM (resolveJoin table metadata))
    let sortTerms ← Action.ofExcept (collected.orderings.mapM (sortTerm metadata))
    return {
      source :=
        match collected.function with
        | some source => .function source
        | none => .table table
      columns := metadata.mappedColumns.map (·.columnName)
      condition := conjoin conditions
      primaryKeys := metadata.keyColumns.map (·.columnName)
      skip := collected.skip
      take := collected.take
      orderBy := sortTerms
      joins := joinClauses }

end QueryChain

namespace Query

/-- The selection that a query describes, with its parameters. -/
def selection (query : Query) (options : Options) : Except Fault (Selection × Parameters) :=
  match query.chain.selection query.dialect query.entity options {} with
  | (.ok selection, parameters) => .ok (selection, parameters)
  | (.error fault, _) => .error fault

def compile (query : Query) (options : Options := {}) : Except Fault Compiled := do
  let (selection, parameters) ← query.selection options
  let sql ← query.dialect.writeSelect selection
  .ok { sql, parameters := parameters.entries, dialect := query.dialect.name }

end Query

end EntitySql
