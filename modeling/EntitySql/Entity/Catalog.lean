import EntitySql.Entity.Type

/-!
# The catalog of entity types

A catalog knows entity types by name and remembers the metadata it has
resolved.  Declaring a mapping anew drops what was remembered of that type,
and of no other.
-/

namespace EntitySql

/-- Entity types and the metadata resolved so far, by type name. -/
structure Catalog where
  types : Association String EntityType := []
  resolved : Association String Metadata := []
  deriving Repr

namespace Catalog

def define (catalog : Catalog) (type : EntityType) : Catalog :=
  { catalog with types := Association.put catalog.types type.name type }

def declare (catalog : Catalog) (name : String) (declaration : Declaration) : Catalog where
  types := catalog.types.map fun entry =>
    if entry.1 == name then (entry.1, { entry.2 with mapping := .declared declaration }) else entry
  resolved := catalog.resolved.filter fun entry => !(entry.1 == name)

/-- The metadata of a type, from memory if it has been resolved before.  A
name without a type stands for a type without fields or mapping. -/
def lookUp (catalog : Catalog) (name : String) : Except Fault Metadata × Catalog :=
  match Association.find catalog.resolved name with
  | some metadata => (.ok metadata, catalog)
  | none =>
    match ((Association.find catalog.types name).getD { name, shape := .bare }).metadata with
    | .ok metadata =>
      (.ok metadata, { catalog with resolved := catalog.resolved ++ [(name, metadata)] })
    | .error fault => (.error fault, catalog)

/-- The metadata of a type as it is and after each of several declarations. -/
def lookUpAll (catalog : Catalog) (name : String) :
    List Declaration → List (Except Fault Metadata)
  | [] => [(catalog.lookUp name).1]
  | declaration :: rest =>
    let (metadata, reached) := catalog.lookUp name
    metadata :: (reached.declare name declaration).lookUpAll name rest

end Catalog

end EntitySql
