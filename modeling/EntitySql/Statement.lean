import EntitySql.Condition
import EntitySql.Dialect.Mutation
import EntitySql.Entity.Instance
import EntitySql.Query.Compiled

/-!
# Mutations of entities

Which columns and parameters take part in the INSERT, UPDATE or DELETE of an
entity.  How they are written is up to the dialect.
-/

namespace EntitySql

/-- Something worth telling the caller that is not a fault. -/
inductive Warning where
  | deleteWithoutWhere (table : String)
  | brokenConnectionReopening
  | transactionAbandoned (depth : Int)
  deriving DecidableEq, Repr

structure EntityKey where
  column : String
  value : Value
  identity : Bool
  deriving Repr

def Metadata.entityKeys (metadata : Metadata) (entity : Instance) : List EntityKey :=
  metadata.keyColumns.map fun column =>
    ⟨column.columnName, entity.get column.name, column.isIdentity⟩

/-- The key columns of a type, which has to have some. -/
def Metadata.primaryKey (metadata : Metadata) (typeName : String) :
    Except Fault (List Column) :=
  match metadata.keyColumns with
  | [] => .error (.configuration (.noKeys metadata.name typeName))
  | keys => .ok keys

/-- Key values as callers give them: as a mapping, as an object with
attributes or as an entity.  The keys of a mapping may be any values. -/
inductive KeyValues where
  | mapping (entries : List (Value × Value))
  | object (attributes : Association String Value)
  | entity (owner : Instance)
  deriving Repr

def namedEntries (entries : List (String × Value)) : List (Value × Value) :=
  entries.map fun entry => (.text entry.1, entry.2)

def KeyValues.members : KeyValues → List (Value × Value)
  | .mapping entries => entries
  | .object attributes =>
    namedEntries (attributes.filter fun entry => !entry.1.startsWith "_")
  | .entity owner => namedEntries owner.publicMembers

def KeyValues.required (keys : Option KeyValues) : Except Fault (List (Value × Value)) :=
  match keys with
  | none => .error (.argument .missingKeys)
  | some keys => .ok keys.members

namespace Statement

def bindColumns : List (String × Value) → Action Parameters (List (String × String))
  | [] => return []
  | (column, value) :: rest => do
    let name ← Parameters.bindHinted column value
    let others ← bindColumns rest
    return (column, name) :: others

def assemble {α : Type} (dialect : Dialect) (text : Action Parameters (String × α)) :
    Except Fault (Compiled × α) :=
  match text {} with
  | (.ok (sql, extra), parameters) =>
    .ok ({ sql, parameters := parameters.entries, dialect := dialect.name }, extra)
  | (.error fault, _) => .error fault

/-- The condition that finds an inserted row by one of its keys. -/
def readBackTerm (dialect : Dialect) (table : String) (bound : Association String String)
    (key : EntityKey) : Action Parameters String := do
  let value ←
    if key.identity then pure (dialect.identityExpression table key.column)
    else
      match Association.find bound key.column with
      | some name => pure (dialect.placeholder name)
      -- a key that was not inserted, since the database computes it
      | none => do
        let name ← Parameters.bindHinted key.column key.value
        pure (dialect.placeholder name)
  return dialect.identifier key.column ++ " = " ++ value

def readBackTerms (dialect : Dialect) (table : String) (bound : Association String String) :
    List EntityKey → Action Parameters (List String)
  | [] => return []
  | key :: rest => do
    let term ← readBackTerm dialect table bound key
    let terms ← readBackTerms dialect table bound rest
    return term :: terms

/-- The columns and values that an INSERT stores. -/
def insertedValues (metadata : Metadata) (entity : Instance) : List (String × Value) :=
  ((metadata.valuesOf entity).filter fun entry => !entry.1.isGenerated).map fun entry =>
    (entry.1.columnName, entry.2)

def insertText (dialect : Dialect) (metadata : Metadata) (entity : Instance)
    (options : Options) : Action Parameters String := do
  let table := options.tableOr metadata.tableName
  let bound ← bindColumns (insertedValues metadata entity)
  let sql := dialect.writeInsert table (bound.map (·.1)) (bound.map (·.2))
  let keys := metadata.entityKeys entity
  if options.selectAfterMutation && !keys.isEmpty then
    let terms ← readBackTerms dialect table (Association.ofPairs bound) keys
    return sql ++ "; " ++ dialect.selectWhole table (" AND ".intercalate terms)
  else return sql

def insert (dialect : Dialect) (entity : Instance) (options : Options := {}) :
    Except Fault Compiled := do
  let metadata ← entity.type.metadata
  let (compiled, _) ← assemble dialect do
    let sql ← insertText dialect metadata entity options
    return (sql, ())
  .ok compiled

/-- The columns and values that an UPDATE writes. -/
def updatedValues (metadata : Metadata) (entity : Instance) : List (String × Value) :=
  ((metadata.valuesOf entity).filter fun entry =>
    !(entry.1.key || entry.1.isGenerated)).map fun entry => (entry.1.columnName, entry.2)

def keyValues (metadata : Metadata) (entity : Instance) : List (String × Value) :=
  metadata.keyColumns.map fun column => (column.columnName, entity.get column.name)

def updateText (dialect : Dialect) (metadata : Metadata) (entity : Instance)
    (condition : Option Predicate) (options : Options) : Action Parameters String := do
  let table := options.tableOr metadata.tableName
  if condition.isNone && metadata.keyColumns.isEmpty then
    Action.fail (.configuration (.noKeysForUpdate metadata.name entity.type.name))
  else
    let assignments ← bindColumns (updatedValues metadata entity)
    if assignments.isEmpty then
      Action.fail (.configuration (.nothingToUpdate metadata.name entity.type.name))
    else
      let assignments := Association.ofPairs assignments
      match condition with
      | none =>
        let bound ← bindColumns (keyValues metadata entity)
        let keys := Association.ofPairs bound
        return dialect.writeUpdate table assignments keys options.selectAfterMutation keys
          none
      | some predicate =>
        let scope : Scope := { dialect, metadata := some metadata }
        -- the comparison is only checked here, and bound when it is rendered
        let _ ← Action.ofExcept (scope.singleComparison predicate)
        let whereText ← scope.render predicate
        let bound ←
          if options.selectAfterMutation then bindColumns (keyValues metadata entity) else pure []
        let keys := Association.ofPairs bound
        return dialect.writeUpdate table assignments [] options.selectAfterMutation keys
          (some whereText)

/-- Compiles the UPDATE of an entity, by its keys or on the rows that satisfy
a single comparison. -/
def update (dialect : Dialect) (entity : Instance) (condition : Option Predicate := none)
    (options : Options := {}) : Except Fault Compiled := do
  let metadata ← entity.type.metadata
  let (compiled, _) ← assemble dialect do
    let sql ← updateText dialect metadata entity condition options
    return (sql, ())
  .ok compiled

def bindMembers (metadata : Metadata) :
    List (Value × Value) → Action Parameters (List (String × String))
  | [] => return []
  | (.text member, value) :: rest => do
    let column := metadata.columnNameOf member
    let name ← Parameters.bindHinted column value
    let others ← bindMembers metadata rest
    return (column, name) :: others
  | (other, _) :: _ => Action.fail (.misfit (.notName other))

/-- Builds the text of a DELETE, with a warning if nothing restricts it. -/
def deleteText (dialect : Dialect) (metadata : Metadata) (condition : Option Predicate)
    (keys : Option KeyValues) (options : Options) :
    Action Parameters (String × List Warning) := do
  let table := options.tableOr metadata.tableName
  match condition with
  | some predicate =>
    let scope : Scope := { dialect, metadata := some metadata }
    let whereText ← scope.render predicate
    return (dialect.writeDelete table [] (some whereText),
      if whereText.isEmpty then [.deleteWithoutWhere table] else [])
  | none =>
    let members := (keys.map KeyValues.members).getD []
    let bound ← bindMembers metadata members
    -- of two members with one column the later one is tested
    let pairs := Association.ofPairs bound
    return (dialect.writeDelete table pairs none,
      if pairs.isEmpty then [.deleteWithoutWhere table] else [])

/-- Compiles the DELETE of the rows that satisfy a predicate or, without
one, that have the given key values. -/
def delete (dialect : Dialect) (type : EntityType) (condition : Option Predicate := none)
    (keys : Option KeyValues := none) (options : Options := {}) :
    Except Fault (Compiled × List Warning) := do
  let metadata ← type.metadata
  assemble dialect (deleteText dialect metadata condition keys options)

def deleteEntity (dialect : Dialect) (entity : Instance) (options : Options := {}) :
    Except Fault (Compiled × List Warning) := do
  let metadata ← entity.type.metadata
  let keys ← metadata.primaryKey entity.type.name
  let values := Association.ofPairs (keys.map fun column => (column.name, entity.get column.name))
  delete dialect entity.type none (some (.mapping (namedEntries values))) options

end Statement

namespace Query

/-- Compiles the DELETE that belongs to a query: of an entity, if one is
given, or else of rows of the query's entity type. -/
def compileDelete (query : Query) (condition : Option Predicate)
    (entity : Option Instance) (keys : Option KeyValues) (options : Options) :
    Except Fault (Compiled × List Warning) :=
  match entity with
  | some entity => Statement.deleteEntity query.dialect entity options
  | none =>
    match query.entity with
    | none => .error (.configuration .deleteWithoutType)
    | some type => Statement.delete query.dialect type condition keys options

end Query

end EntitySql
