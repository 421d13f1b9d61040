import EntitySql.Session.Lifecycle

/-!
# Work through a manager

The entry points that read and write entities.  Each one compiles its
statement first and only then asks for the connection; inside a transaction
the statement goes to the executor together with the physical transaction.
-/

namespace EntitySql

variable {ω : Type}

/-- One call of an entry point.  Where a type may be missing, this shows when
the call is compiled. -/
inductive Work where
  | query (source : Query) (condition : Option Predicate) (options : Options)
  | getById (type : Option EntityType) (key : Value) (options : Options)
  | getByKeys (type : Option EntityType) (keys : Option KeyValues) (options : Options)
  | insert (entity : Instance) (options : Options) (resultType : Option EntityType)
  | update (entity : Instance) (condition : Option Predicate) (options : Options)
  | deleteRows (type : EntityType) (condition : Option Predicate) (keys : Option KeyValues)
      (options : Options)
  | deleteEntity (entity : Instance) (options : Options)
  deriving Repr

/-- A compiled call: what to ask the executor, which warnings to raise, and
whether the result is handed on. -/
structure Plan where
  kind : RequestKind
  compiled : Compiled
  type : Option EntityType
  warnings : List Warning := []
  returnsResult : Bool := true
  deriving Repr

namespace Work

/-- Reads the rows that satisfy a predicate as one entity at most. -/
def planSingle (dialect : Dialect) (type : EntityType) (predicate : Predicate)
    (options : Options) : Except Fault Plan := do
  let compiled ← ((Query.start dialect (some type)).filter predicate).compile options
  .ok { kind := .querySingle, compiled, type := some type }

/-- The value given for a key column, which has to be there. -/
def keyTest (values : List (Value × Value)) (column : Column) : Except Fault Predicate :=
  let given := values.find? fun entry =>
    match entry.1 with
    | .text name => name == column.name
    | _ => false
  match given with
  | some entry => .ok (.test (.text column.name) .equal entry.2)
  | none => .error (.argument (.missingKey column.name))

def allOf (first : Predicate) (rest : List Predicate) : Predicate :=
  rest.foldl (fun left right => .logical .conjunction left right) first

/-- What a mutation asks the executor: the stored row if it is wanted, and
otherwise nothing but the execution. -/
def mutationPlan (compiled : Compiled) (options : Options) (type : EntityType) : Plan :=
  if options.selectAfterMutation then
    { kind := .querySingle, compiled, type := some type }
  else { kind := .execute, compiled, type := none, returnsResult := false }

def plan (dialect : Dialect) : Work → Except Fault Plan
  | .query source condition options => do
    let query :=
      match condition with
      | none => source
      | some predicate => source.filter predicate
    let compiled ← query.compile options
    .ok { kind := .query, compiled, type := query.rowType }
  | .getById type key options => do
    let type ← EntityType.given type
    let metadata ← type.metadata
    match ← metadata.primaryKey type.name with
    | [column] => planSingle dialect type (.test (.text column.name) .equal key) options
    | _ => .error (.configuration (.compositeKey metadata.name type.name))
  | .getByKeys type keys options => do
    let values ← KeyValues.required keys
    let type ← EntityType.given type
    let metadata ← type.metadata
    let columns ← metadata.primaryKey type.name
    match ← columns.mapM (keyTest values) with
    | first :: rest => planSingle dialect type (allOf first rest) options
    | [] => .error (.configuration (.noKeys metadata.name type.name))
  | .insert entity options resultType => do
    let compiled ← Statement.insert dialect entity options
    .ok (mutationPlan compiled options (resultType.getD entity.type))
  | .update entity condition options => do
    let compiled ← Statement.update dialect entity condition options
    .ok (mutationPlan compiled options entity.type)
  | .deleteRows type condition keys options => do
    let (compiled, warnings) ← Statement.delete dialect type condition keys options
    .ok { kind := .execute, compiled, type := none, warnings }
  | .deleteEntity entity options => do
    let (compiled, warnings) ← Statement.deleteEntity dialect entity options
    .ok { kind := .execute, compiled, type := none, warnings }

end Work

namespace Environment

open Session

def warnAll : List Warning → Action (Session ω) Unit
  | [] => return ()
  | warning :: rest => do
    warn warning
    warnAll rest

def ask (environment : Environment ω) (plan : Plan) : Action (Session ω) Value := do
  let transaction ← Action.read currentResource
  environment.run {
    kind := plan.kind
    sql := plan.compiled.sql
    parameters := plan.compiled.parameters
    type := plan.type
    transaction }

/-- What a caller gets back: the entities of a query as a list, and the
executor's answer or nothing otherwise. -/
def result (plan : Plan) (value : Value) : Except Fault Value :=
  match plan.kind with
  | .query =>
    match value.elements with
    | some items => .ok (.list items)
    | none => .error (.misfit .notIterable)
  | _ => .ok (if plan.returnsResult then value else .null)

def perform (environment : Environment ω) (dialect : Dialect) (work : Work) :
    Action (Session ω) Value := do
  let plan ← Action.ofExcept (work.plan dialect)
  warnAll plan.warnings
  environment.withConnection do
    let value ← environment.ask plan
    Action.ofExcept (result plan value)

end Environment

end EntitySql
