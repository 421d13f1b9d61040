import EntitySql.Entity.Type

/-!
# Instances

An instance of an entity type with the values of its members.
-/

namespace EntitySql

structure Instance where
  type : EntityType
  values : Association String Value
  deriving Repr

namespace Instance

/-- The value of a member: its own, or else that of a constant of its type;
one that was never set is null. -/
def get (entity : Instance) (member : String) : Value :=
  ((Association.find entity.values member).or
    (Association.find entity.type.constants member)).getD .null

/-- What stands in the place of an entity that is not given. -/
def absent : Instance := ⟨.nothing, []⟩

/-- The entity as a value.  Going through an entity of a tolerant type yields
its members. -/
def toValue (entity : Instance) : Value :=
  .entity entity.type.name (entity.type.shape = .tolerant) entity.values

def publicMembers (entity : Instance) : List (String × Value) :=
  if entity.type.shape = .bare then
    entity.values.filter fun member => !member.1.startsWith "_"
  else entity.values

end Instance

/-- Makes an instance from values for members, or refuses them. -/
abbrev Constructor : Type := Association String Value → Except Fault Instance

namespace EntityType

/-- The values of the fields: the given ones, and defaults for the others. -/
def fill (given : Association String Value) (fields : List Field) : List (String × Value) :=
  fields.map fun field =>
    (field.name, ((Association.find given field.name).or field.default).getD .null)

def missing (given : Association String Value) (fields : List Field) : List String :=
  (fields.filter fun field => !Association.has given field.name && field.default.isNone).map
    (·.name)

def instantiateExactly (type : EntityType) (given : Association String Value) :
    Except Fault Instance :=
  match (given.map (·.1)).find? fun name => !type.fieldNames.contains name with
  | some name => .error (.misfit (.unknownMember name))
  | none =>
    match missing given type.fields with
    | name :: _ => .error (.misfit (.missingMember name))
    | [] => .ok ⟨type, fill given type.fields⟩

/-- The constructor of a type whose fields take any value as it is. -/
def instantiate (type : EntityType) : Constructor := fun given =>
  match type.shape with
  | .bare => .ok ⟨type, given⟩
  | .closed => instantiateExactly type given
  | .stuck => do
    let entity ← instantiateExactly type given
    if type.fields.isEmpty then return entity
    else throw (.lacking (.noStorage type.name))
  | .tolerant =>
    match missing given type.fields with
    | [] => .ok ⟨type, fill given type.fields⟩
    | names => .error (.ofIssues (names.map fun name => ⟨[name], "missing"⟩))

end EntityType

namespace Metadata

def valuesOf (metadata : Metadata) (entity : Instance) : List (Column × Value) :=
  metadata.mappedColumns.map fun column => (column, entity.get column.name)

end Metadata

end EntitySql
