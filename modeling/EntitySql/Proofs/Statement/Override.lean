import EntitySql.Proofs.Query.RowType
import EntitySql.Statement

/-!
# Asking for another table

A statement may ask for another table than the declared one.  It is then compiled as if that table
were declared: the target, the read-back, the identity of a new row, the qualifiers and the join
conditions all take the table from one place.  Joined types keep their own tables.
-/

namespace EntitySql

/-! ## Another declaration -/

namespace Metadata

variable {table : String}

/-- The same metadata with another table. -/
def declaring (metadata : Metadata) (table : String) : Metadata :=
  { metadata with table := some table }

theorem tableName_declaring (metadata : Metadata) (given : table ≠ "") :
    (metadata.declaring table).tableName = table := by
  simp [tableName, declaring, overriding, given]

end Metadata

theorem Options.tableOr_some {options : Options} {table : String} (given : table ≠ "")
    (declared : String) : ({ options with tableName := some table }).tableOr declared = table := by
  simp [tableOr, overriding, given]

theorem Options.tableOr_none (options : Options) (declared : String) :
    ({ options with tableName := none }).tableOr declared = declared :=
  rfl

namespace EntityType

/-- The same type with another table in its declaration.  What has no metadata has no place for a
table. -/
def declaring (type : EntityType) (table : String) : EntityType :=
  { type with
    mapping :=
      match type.mapping with
      | .complete metadata => .complete (metadata.declaring table)
      | .declared declaration => .declared { declaration with table := some table }
      | .undeclared => if type.shape = .bare then .undeclared else .declared { table := some table }
      | .unreadable => .unreadable }

theorem metadata_declaring (type : EntityType) (table : String) :
    (type.declaring table).metadata = type.metadata.map (·.declaring table) := by
  unfold metadata declaring
  cases type.mapping with
  | undeclared =>
      by_cases bare : type.shape = .bare
      · simp only [if_pos bare]
        rfl
      · simp only [if_neg bare]
        rfl
  | _ => rfl

theorem bind_metadata_declaring {α : Type} (type : EntityType) (table : String)
    (next : Metadata → Except Fault α) :
    ((type.declaring table).metadata >>= next) =
      type.metadata >>= fun metadata => next (metadata.declaring table) := by
  rw [metadata_declaring]
  cases type.metadata <;> rfl

end EntityType

/-- The same entity with another table in the declaration of its type. -/
def Instance.declaring (entity : Instance) (table : String) : Instance :=
  { entity with type := entity.type.declaring table }

theorem Instance.bind_metadata_declaring {α : Type} (entity : Instance) (table : String)
    (next : Metadata → Except Fault α) :
    ((entity.declaring table).type.metadata >>= next) =
      entity.type.metadata >>= fun metadata => next (metadata.declaring table) :=
  entity.type.bind_metadata_declaring table next

/-- The same key values, with another table in the declaration of their owner. -/
def KeyValues.declaring (keys : KeyValues) (table : String) : KeyValues :=
  match keys with
  | .entity owner => .entity (owner.declaring table)
  | keys => keys

theorem KeyValues.members_declaring (keys : KeyValues) (table : String) :
    (keys.declaring table).members = keys.members := by
  cases keys <;> rfl

/-! ## Conditions -/

namespace Scope

/-- The same scope with another table in its metadata. -/
def declaring (scope : Scope) (table : String) : Scope :=
  { scope with metadata := scope.metadata.map (·.declaring table) }

variable (scope : Scope) (table : String)

theorem columnOf_declaring (member : String) :
    (scope.declaring table).columnOf member = scope.columnOf member := by
  obtain ⟨dialect, metadata, qualifier⟩ := scope
  cases metadata <;> rfl

theorem column_declaring (name : Value) :
    (scope.declaring table).column name = scope.column name := by
  cases name with
  | text member =>
      change ((scope.declaring table).columnOf member).map _ = _
      rw [columnOf_declaring]
      rfl
  | _ => rfl

theorem bindAll_declaring (values : List Value) :
    (scope.declaring table).bindAll values = scope.bindAll values := by
  induction values with
  | nil => rfl
  | cons value rest ih =>
      rw [bindAll, bindAll, ih]
      rfl

theorem renderWith_declaring {ofRaw other : Value → Action Parameters String}
    (raws : ∀ value, ofRaw value = other value) (tree : Predicate) :
    (scope.declaring table).renderWith ofRaw tree = scope.renderWith other tree := by
  have belongs (negated : Bool) (tested : Predicate) (values : List Value) :
      (scope.declaring table).belongs negated tested values =
        scope.belongs negated tested values := by
    simp only [Scope.belongs, column_declaring, bindAll_declaring]
  have compare (oriented : Oriented) :
      (scope.declaring table).compare oriented = scope.compare oriented := by
    unfold Scope.compare
    rw [column_declaring]
    rfl
  induction tree with
  | logical connective left right sameLeft sameRight =>
      rw [renderWith, renderWith, sameLeft, sameRight]
  | comparison op left right => simp only [renderWith, compare]
  | membership tested values => exact belongs false tested values
  | negation operand =>
      cases operand with
      | membership tested values => exact belongs true tested values
      | _ => rfl
  | raw value => exact raws value
  | member name => rfl
  | constant value => rfl

/-- Conditions never name the table of their metadata. -/
theorem render_declaring (predicate : Predicate) :
    (scope.declaring table).render predicate = scope.render predicate := by
  refine scope.renderWith_declaring table (fun value => ?_) predicate
  cases value with
  | dict entries =>
      simp only [renderTree, scope.renderWith_declaring table fun _ => rfl]
  | _ => rfl

theorem singleComparison_declaring (predicate : Predicate) :
    (scope.declaring table).singleComparison predicate = scope.singleComparison predicate := by
  have storedName (name : Value) :
      (scope.declaring table).storedName name = scope.storedName name := by
    cases name with
    | text member =>
        change ((scope.declaring table).columnOf member).map _ = _
        rw [columnOf_declaring]
        rfl
    | _ => rfl
  simp only [singleComparison, storedName]

end Scope

/-! ## Mutations -/

namespace Statement

theorem bindMembers_declaring (metadata : Metadata) (table : String)
    (members : List (Value × Value)) :
    bindMembers (metadata.declaring table) members = bindMembers metadata members := by
  induction members with
  | nil => rfl
  | cons entry rest ih =>
      obtain ⟨name, value⟩ := entry
      cases name with
      | text member =>
          rw [bindMembers, bindMembers, ih]
          rfl
      | _ => rfl

variable {table : String} (given : table ≠ "") (dialect : Dialect) (metadata : Metadata)
variable (entity : Instance) (type : EntityType) (condition : Option Predicate)
variable (keys : Option KeyValues) (options : Options)

include given

theorem insertText_override :
    insertText dialect metadata entity { options with tableName := some table } =
      insertText dialect (metadata.declaring table) (entity.declaring table)
        { options with tableName := none } := by
  unfold insertText
  rw [Options.tableOr_some given, Options.tableOr_none, metadata.tableName_declaring given]
  rfl

theorem insert_override :
    insert dialect entity { options with tableName := some table } =
      insert dialect (entity.declaring table) { options with tableName := none } := by
  rw [insert, insert, entity.bind_metadata_declaring]
  simp only [insertText_override given]

theorem updateText_override :
    updateText dialect metadata entity condition { options with tableName := some table } =
      updateText dialect (metadata.declaring table) (entity.declaring table) condition
        { options with tableName := none } := by
  unfold updateText
  rw [Options.tableOr_some given, Options.tableOr_none, metadata.tableName_declaring given]
  have updated : updatedValues (metadata.declaring table) (entity.declaring table) =
      updatedValues metadata entity := rfl
  have keys : keyValues (metadata.declaring table) (entity.declaring table) =
      keyValues metadata entity := rfl
  have scope : ({ dialect, metadata := some (metadata.declaring table) } : Scope) =
      Scope.declaring { dialect, metadata := some metadata } table := rfl
  rw [updated, keys, scope]
  simp only [Scope.render_declaring, Scope.singleComparison_declaring]
  rfl

theorem update_override :
    update dialect entity condition { options with tableName := some table } =
      update dialect (entity.declaring table) condition { options with tableName := none } := by
  rw [update, update, entity.bind_metadata_declaring]
  simp only [updateText_override given]

theorem deleteText_override :
    deleteText dialect metadata condition keys { options with tableName := some table } =
      deleteText dialect (metadata.declaring table) condition keys
        { options with tableName := none } := by
  unfold deleteText
  rw [Options.tableOr_some given, Options.tableOr_none, metadata.tableName_declaring given]
  cases condition with
  | none => simp only [bindMembers_declaring]
  | some predicate =>
      have scope : ({ dialect, metadata := some (metadata.declaring table) } : Scope) =
          Scope.declaring { dialect, metadata := some metadata } table := rfl
      simp only [scope, Scope.render_declaring]

theorem delete_override :
    delete dialect type condition keys { options with tableName := some table } =
      delete dialect (type.declaring table) condition keys { options with tableName := none } := by
  rw [delete, delete, type.bind_metadata_declaring]
  simp only [deleteText_override given]

omit given in
/-- Only the members of key values count. -/
theorem delete_of_members {others : Option KeyValues}
    (same : keys.map KeyValues.members = others.map KeyValues.members) :
    delete dialect type condition keys options = delete dialect type condition others options := by
  simp only [delete, deleteText, same]

theorem deleteEntity_override :
    deleteEntity dialect entity { options with tableName := some table } =
      deleteEntity dialect (entity.declaring table) { options with tableName := none } := by
  rw [deleteEntity, deleteEntity, entity.bind_metadata_declaring]
  simp only [delete_override given]
  rfl

end Statement

/-! ## Queries -/

/-- The call with other types: `rows` changes the type that a filter names, `joined` the one that is
joined. -/
def QueryStep.retype (rows joined : EntityType → EntityType) : QueryStep → QueryStep
  | filter predicate type => filter predicate (type.map rows)
  | join inner outerKey innerKey => join (inner.map joined) outerKey innerKey
  | step => step

namespace QueryChain

/-- The chain with other types for its rows and other types joined to them. -/
def retype (rows joined : EntityType → EntityType) (chain : QueryChain) : QueryChain where
  root := chain.root.map rows
  steps := chain.steps.map (·.retype rows joined)

variable {rows joined : EntityType → EntityType} {table : String}

theorem filters_retype (steps : List QueryStep) :
    filters (steps.map (·.retype rows joined)) =
      (filters steps).map fun filter => (filter.1, filter.2.map rows) := by
  rw [filters, filters, List.filterMap_map, List.map_filterMap]
  exact List.filterMap_congr fun step _ => by cases step <;> rfl

theorem joins_retype {steps : List QueryStep}
    (kept : ∀ call ∈ joins steps, ∀ inner ∈ call.1, joined inner = inner) :
    joins (steps.map (·.retype rows joined)) = joins steps := by
  have each : joins (steps.map (·.retype rows joined)) =
      (joins steps).map fun call => (call.1.map joined, call.2) := by
    rw [joins, joins, List.filterMap_map, List.map_reverse, List.map_filterMap]
    exact congrArg List.reverse (List.filterMap_congr fun step _ => by cases step <;> rfl)
  refine each.trans ((List.map_congr_left fun call isCall => ?_).trans (List.map_id _))
  obtain ⟨inner, members⟩ := call
  cases inner with
  | none => rfl
  | some inner => rw [Option.map_some, kept _ isCall inner rfl, id_eq]

theorem selectedType_retype (chain : QueryChain) (fallback : Option EntityType) :
    (chain.retype rows joined).selectedType (fallback.map rows) =
      (chain.selectedType fallback).map rows := by
  have named : (filters (chain.retype rows joined).steps).findSome? (·.2) =
      ((filters chain.steps).findSome? (·.2)).map rows := by
    rw [retype, filters_retype, List.findSome?_map, List.map_findSome?]
    rfl
  rw [selectedType, selectedType, named, retype]
  cases (filters chain.steps).findSome? (·.2) <;> cases chain.root <;> rfl

theorem renderAll_declaring (scope : Scope) (table : String) (predicates : List Predicate) :
    renderAll (scope.declaring table) predicates = renderAll scope predicates := by
  induction predicates with
  | nil => rfl
  | cons predicate rest ih => rw [renderAll, renderAll, scope.render_declaring, ih]

/-- Rows of the type with the table in its declaration are selected as those of the type for which
the table is asked. -/
theorem selection_override {chain : QueryChain} {fallback : Option EntityType}
    (given : table ≠ "")
    (declares : ∀ type, chain.rowType fallback = some type → rows type = type.declaring table)
    (kept : ∀ call ∈ joins chain.steps, ∀ inner ∈ call.1, joined inner = inner)
    (dialect : Dialect) (options : Options) :
    chain.selection dialect fallback { options with tableName := some table } =
      (chain.retype rows joined).selection dialect (fallback.map rows)
        { options with tableName := none } := by
  have functions : functionCall (chain.retype rows joined).steps = functionCall chain.steps :=
    findSome?_map (fun step => by cases step <;> rfl) _
  have skips : skipCount (chain.retype rows joined).steps = skipCount chain.steps :=
    findSome?_map (fun step => by cases step <;> rfl) _
  have takes : takeCount (chain.retype rows joined).steps = takeCount chain.steps :=
    findSome?_map (fun step => by cases step <;> rfl) _
  have predicates : (filters (chain.retype rows joined).steps).map (·.1) =
      (filters chain.steps).map (·.1) := by
    rw [retype, filters_retype, List.map_map]
    rfl
  have areJoins : joins (chain.retype rows joined).steps = joins chain.steps := joins_retype kept
  have sorted : orderings (chain.retype rows joined).steps = orderings chain.steps :=
    orderings_map (fun step => by cases step <;> rfl) _
  rw [selection_eq, selection_eq]
  unfold tableFunction
  rw [selectedType_retype, functions, skips, takes, predicates, areJoins, sorted]
  refine congrArg (Action.ofExcept _ >>= ·) (funext fun function => ?_)
  cases selected : chain.selectedType fallback with
  | none => rfl
  | some type =>
      rw [Option.map_some, declares type ((chain.rowType_eq fallback).trans selected)]
      dsimp only
      rw [type.metadata_declaring, Action.ofExcept_map_bind]
      refine congrArg (Action.ofExcept _ >>= ·) (funext fun metadata => ?_)
      have scope (qualifier : Option String) :
          ({ dialect, metadata := some (metadata.declaring table), qualifier } : Scope) =
            Scope.declaring { dialect, metadata := some metadata, qualifier } table := rfl
      rw [Options.tableOr_some given, Options.tableOr_none, metadata.tableName_declaring given]
      simp only [scope, renderAll_declaring]
      rfl

end QueryChain

/-- A type with another table in its declaration, if it is one of those that are meant. -/
def EntityType.redeclared (meant : EntityType → Bool) (table : String) (type : EntityType) :
    EntityType :=
  if meant type then type.declaring table else type

namespace Query

/-- The query with other types for its rows and other types joined to them. -/
def retype (rows joined : EntityType → EntityType) (query : Query) : Query :=
  { query with entity := query.entity.map rows, chain := query.chain.retype rows joined }

/-- The query where the types that are meant have another table in their declarations, wherever
they stand in it. -/
def redeclaring (meant : EntityType → Bool) (table : String) (query : Query) : Query :=
  query.retype (·.redeclared meant table) (·.redeclared meant table)

/-- The types that are joined, in the order of the calls. -/
def joinedTypes (query : Query) : List EntityType :=
  (QueryChain.joins query.chain.steps).filterMap (·.1)

theorem compile_override {query : Query} {rows joined : EntityType → EntityType} {table : String}
    (given : table ≠ "")
    (declares : ∀ type, query.rowType = some type → rows type = type.declaring table)
    (kept : ∀ inner ∈ query.joinedTypes, joined inner = inner) (options : Options) :
    query.compile { options with tableName := some table } =
      (query.retype rows joined).compile { options with tableName := none } := by
  have keptEach : ∀ call ∈ QueryChain.joins query.chain.steps, ∀ inner ∈ call.1,
      joined inner = inner := fun call isCall inner isInner =>
    kept inner (List.mem_filterMap.mpr ⟨call, isCall, isInner⟩)
  unfold compile selection
  rw [QueryChain.selection_override given declares keptEach]
  rfl

end Query

/-! ## All statements -/

/-- Every request is compiled with some options as the request over a type with another table in its
declaration is with others. -/
structure Options.DeclareSame (asked plain : Options) (table : String) : Prop where
  insert : ∀ dialect entity, Statement.insert dialect entity asked =
    Statement.insert dialect (entity.declaring table) plain
  update : ∀ dialect entity condition, Statement.update dialect entity condition asked =
    Statement.update dialect (entity.declaring table) condition plain
  delete : ∀ dialect type condition keys, ∀ same ∈ [keys, keys.map (·.declaring table)],
    Statement.delete dialect type condition keys asked =
      Statement.delete dialect (type.declaring table) condition same plain
  deleteEntity : ∀ dialect entity, Statement.deleteEntity dialect entity asked =
    Statement.deleteEntity dialect (entity.declaring table) plain
  query : ∀ (query : Query) (meant : EntityType → Bool),
    (∀ type, query.rowType = some type → meant type = true) →
    (∀ inner ∈ query.joinedTypes, meant inner = false) →
    query.compile asked = (query.redeclaring meant table).compile plain
  rows : ∀ query : Query,
    query.compile asked = (query.retype (·.declaring table) id).compile plain
  queryDelete : ∀ (query : Query) condition (entity : Option Instance) keys,
    query.compileDelete condition entity keys asked =
      (query.retype (·.declaring table) id).compileDelete condition
        (entity.map (·.declaring table)) keys plain

/-- Asking for a table is the same as declaring it, for the type that a statement is about and for
nothing that is joined to it. -/
theorem Options.override_declares {table : String} (given : table ≠ "") (options : Options) :
    DeclareSame { options with tableName := some table } { options with tableName := none }
      table where
  insert dialect entity := Statement.insert_override given dialect entity options
  update dialect entity condition :=
    Statement.update_override given dialect entity condition options
  delete dialect type condition keys same isSame := by
    refine (Statement.delete_override given dialect type condition keys options).trans
      (Statement.delete_of_members dialect _ condition _ _ ?_)
    rcases List.mem_pair.mp isSame with rfl | rfl
    · rfl
    · cases keys with
      | none => rfl
      | some keys => exact congrArg some (keys.members_declaring table).symm
  deleteEntity dialect entity := Statement.deleteEntity_override given dialect entity options
  query query meant isMeant others := by
    refine Query.compile_override given (fun type isRow => ?_) (fun inner isJoined => ?_) options
    · exact if_pos (isMeant type isRow)
    · exact if_neg (by rw [others inner isJoined]; exact Bool.false_ne_true)
  rows query := Query.compile_override given (fun _ _ => rfl) (fun _ _ => rfl) options
  queryDelete query condition entity keys := by
    obtain ⟨dialect, type, chain⟩ := query
    cases entity with
    | some entity => exact Statement.deleteEntity_override given dialect entity options
    | none =>
        cases type with
        | none => rfl
        | some type => exact Statement.delete_override given dialect type condition keys options

/-- Entries of the log with the orders that they are about. -/
def orderLog : Query :=
  ((Query.start ⟨.sqlServer, .atSign⟩ (some Samples.auditEntry)).filter
    (.test (.text "Level") .greater (.int 1))).join (some Samples.order) (.text "Message")
    (.text "OrderId")

theorem orderLog_override_declares :
    ∃ compiled,
      orderLog.compile { tableName := some "log.Entries" } = .ok compiled ∧
      (orderLog.redeclaring (·.name == "AuditEntry") "log.Entries").compile = .ok compiled ∧
      compiled.sql = "SELECT [log].[Entries].[Message], [log].[Entries].[Level] " ++
        "FROM [log].[Entries] INNER JOIN [Orders] ON [log].[Entries].[Message] = " ++
        "[Orders].[OrderId] WHERE [log].[Entries].[Level] > @p0" := by
  have override := Options.override_declares (by decide : "log.Entries" ≠ "") {}
  have same := override.query orderLog (·.name == "AuditEntry")
    (fun type isRow => by cases isRow; decide) (by decide)
  have written : (orderLog.compile { tableName := some "log.Entries" }).toOption.map (·.sql) =
      some ("SELECT [log].[Entries].[Message], [log].[Entries].[Level] " ++
        "FROM [log].[Entries] INNER JOIN [Orders] ON [log].[Entries].[Message] = " ++
        "[Orders].[OrderId] WHERE [log].[Entries].[Level] > @p0") := by
    decide +kernel
  obtain ⟨compiled, accepted, sql_eq⟩ := Fault.ok_of_seen written
  exact ⟨compiled, accepted, same.symm.trans accepted, sql_eq⟩

end EntitySql
