import EntitySql.Entity.Type
import EntitySql.Text.Composition
import EntitySql.Text.MemberName

/-!
# Defining entity types

A type is defined by a shape, its own fields and possibly a base.  It has the
fields of the base with its own merged in, and none of the base's mapping.
Each shape has its own conditions on the fields and on the base.
-/

namespace EntitySql

namespace Field

/-- Adds a field, or gives the field of that name a new default. -/
def merge (fields : List Field) (field : Field) : List Field :=
  match fields with
  | [] => [field]
  | first :: rest =>
    if first.name == field.name then field :: rest else first :: merge rest field

/-- A field with the default of the inherited field of its name, if it has
none itself. -/
def inheriting (inherited : List Field) (field : Field) : Field :=
  { field with
    default := field.default.or ((inherited.find? (·.name == field.name)).bind (·.default)) }

def misplaced (fields : List Field) : Option Field :=
  (fields.dropWhile (·.default.isNone)).find? (·.default.isNone)

/-- The first field whose name cannot be written as that of a member, or is
the name of a field before it. -/
def misnamed : List Field → Option Field
  | [] => none
  | field :: rest =>
    if !Text.isMemberName field.name then some field
    else (rest.find? (·.name == field.name)).or (misnamed rest)

/-- The names of what an instance is made of, in their composed forms.  The
first stands for the instance itself and makes way for a field of its name. -/
def parameterNames (fields : List Field) : List String :=
  let names := fields.map (·.name)
  (if names.contains "self" then "__dataclass_self__" else "self") :: names.map Text.composed

/-- The first of some names that cannot be given a value or comes again. -/
def clash : List String → Option String
  | [] => none
  | name :: rest =>
    if name == Text.fixedName || rest.contains name then some name else clash rest

/-- Whether a name is hidden from outside, by an underscore in front. -/
def isHidden (field : Field) : Bool := field.name.toList.head? == some '_'

/-- Whether a name is that of something that the type has and not its
instances, by two underscores in front. -/
def isTypeLevel (name : String) : Bool := name.toList.take 2 == ['_', '_']

def withOwnDefault (field : Field) : Except Fault Field :=
  match field.default.bind SharedKind.ofValue with
  | some kind => .error (.sharedDefault field.name kind)
  | none => .ok field

/-- A field of a closed type over a tolerant base, which takes the defaults
away from all fields but those at the level of the type, and has what is
hidden without a default. -/
def overTolerant (constants : Association String Value) (field : Field) : Except Fault Field :=
  if !field.isHidden then .ok { field with default := none }
  else
    let default :=
      if isTypeLevel field.name then field.default.or (Association.find constants field.name)
      else none
    if default.isNone then .error (.sharedDefault field.name .hidden)
    else withOwnDefault { field with default }

end Field

/-- What the fields of a type say about its mapping: nothing, unless one of them
takes the place of the declaration and its default counts as given. -/
def Mapping.ofFields (fields : List Field) : Mapping :=
  match ((fields.filter (·.name == "__entity__")).getLast?).bind (·.default) with
  | some value => if value.isGiven then .unreadable else .undeclared
  | none => .undeclared

namespace EntityType

/-- The fields of a closed type, from those of its base and its own.  Those that
have to be given come before those with defaults. -/
def closedFields (inherited own : List Field) : Except Fault (List Field) :=
  let all := own.foldl Field.merge inherited
  match Field.misplaced all with
  | some field => .error (.misfit (.requiredAfterDefault field.name))
  | none => .ok all

/-- The fields of a closed type if its instances can be made from them: no two
names may have the same composed form, and all have to be in that form. -/
def withUsableNames (fields : List Field) : Except Fault (List Field) :=
  match Field.clash (Field.parameterNames fields) with
  | some name => .error (.unwritable name)
  | none =>
    match fields.find? fun field => !Text.isComposed field.name with
    | some field => .error (.misfit (.memberName field.name))
    | none => .ok fields

def typeConstants (type : EntityType) : Association String Value :=
  type.constants.filter fun entry => Field.isTypeLevel entry.1

/-- Defines a closed type.  A tolerant base has no fields for it. -/
def defineClosed (base : Option EntityType) (name : String) (fields : List Field) :
    Except Fault EntityType := do
  let base := base.getD { name, shape := .closed }
  let inherited := if base.shape = .tolerant then [] else base.fields
  let shape := if base.shape = .tolerant || base.shape = .stuck then Shape.stuck else .closed
  let own ←
    if shape = .stuck then fields.mapM (Field.overTolerant base.constants)
    else fields.mapM fun field => (field.inheriting inherited).withOwnDefault
  return {
    name, shape
    fields := ← withUsableNames (← closedFields inherited own)
    constants := base.typeConstants
    mapping := Mapping.ofFields fields }

def withConstants (base : Association String Value) (fields : List Field) :
    Association String Value :=
  fields.foldl
    (fun constants field => Association.put constants field.name (field.default.getD .null)) base

/-- Defines a tolerant type, whose base has to be derived from a tolerant one.
Fields with hidden names become constants.  A stuck base keeps to its own
fields. -/
def defineTolerant (base : Option EntityType) (name : String) (fields : List Field) :
    Except Fault EntityType :=
  let base := base.getD { name, shape := .tolerant }
  let (hidden, visible) := fields.partition Field.isHidden
  match base.shape with
  | .tolerant =>
    .ok {
      name, shape := .tolerant
      fields := visible.foldl Field.merge base.fields
      constants := withConstants base.constants hidden
      mapping := Mapping.ofFields fields }
  | .stuck =>
    .ok {
      base with
      name
      constants := withConstants base.constants
        (hidden.filter fun field => Field.isTypeLevel field.name)
      mapping := Mapping.ofFields fields }
  | _ => .error (.misfit (.foreignBase base.name))

/-- Checks the names of a type and of the fields that it has itself.  Only those
of a closed type have to be names of members. -/
def checkNames (name : String) (shape : Shape) (fields : List Field) : Except Fault Unit :=
  match if shape = .closed then Field.misnamed fields else none with
  | some field => .error (.misfit (.memberName field.name))
  | none => if name.toList.contains '\x00' then .error .nullCharacter else .ok ()

/-- Defines a type.  A bare one adds nothing to its base and takes its shape. -/
def define (base : Option EntityType) (name : String) (shape : Shape) (fields : List Field) :
    Except Fault EntityType := do
  checkNames name shape fields
  match shape with
  | .bare => return { (base.getD { name, shape }) with name, mapping := .undeclared }
  | .tolerant => defineTolerant base name fields
  | _ => defineClosed base name fields

end EntityType

end EntitySql
