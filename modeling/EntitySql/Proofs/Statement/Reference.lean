import EntitySql.Proofs.Query.Mention
import EntitySql.Proofs.Statement.Mention

/-!
# Columns that statements refer to

The statements of an entity type refer to its mapped columns, and to those of members
without a mapping.  A member that is not mapped is refused wherever a predicate names it.
The columns of orderings, of join keys and of the keys of a DELETE are written as they are
named.
-/

namespace EntitySql

open Sql (Mention Composed)

namespace Metadata

variable {metadata : Metadata} {column member : String}

/-- A column is mapped, or that of a member without a mapping. -/
def Offers (metadata : Metadata) (column : String) : Prop :=
  column ∈ metadata.mappedColumns.map (·.columnName) ∨ metadata.find? column = none

/-- The members that are named are not declared as not mapped. -/
def Admits (metadata : Metadata) (members : List Value) : Prop :=
  ∀ member, .text member ∈ members → (metadata.find? member).any (·.notMapped) = false

theorem admits_nil : metadata.Admits [] := by simp [Admits]

theorem offers_of_mapped {mapped : Column} (member : mapped ∈ metadata.mappedColumns) :
    metadata.Offers mapped.columnName :=
  .inl (List.mem_map.mpr ⟨mapped, member, rfl⟩)

theorem offers_columnNameOf (admitted : (metadata.find? member).any (·.notMapped) = false) :
    metadata.Offers (metadata.columnNameOf member) := by
  unfold columnNameOf
  cases found : metadata.find? member with
  | none => exact .inr found
  | some column =>
      have isColumn : column ∈ metadata.columns := List.mem_of_find?_eq_some found
      have mapped : column.notMapped = false := by simpa [found] using admitted
      exact offers_of_mapped (List.mem_filter.mpr ⟨isColumn, by simp [mapped]⟩)

end Metadata

/-- What the statements of a type may mention: some tables, its columns and others that
are named without a check, parameters and functions. -/
def Sql.Mention.Allowed (metadata : Metadata) (tables unchecked : List String) : Mention → Prop
  | .table name => name ∈ tables
  | .column _ name => metadata.Offers name ∨ name ∈ unchecked
  | .entry _ name => metadata.Offers name ∨ name ∈ unchecked
  | .joined _ name => metadata.Offers name ∨ name ∈ unchecked
  | .identity _ name => metadata.Offers name ∨ name ∈ unchecked
  | .unnamed _ => False
  | .parameter _ => True
  | .call _ => True

theorem Sql.Mention.Allowed.column {metadata : Metadata} {tables unchecked : List String}
    {mention : Mention} {column : String} (allowed : mention.Allowed metadata tables unchecked)
    (named : mention.column? = some column) : metadata.Offers column ∨ column ∈ unchecked := by
  cases mention <;> cases named <;> exact allowed

/-- A text mentions what it may, and all the columns that are named without a check. -/
structure Refers (dialect : Dialect) (metadata : Metadata) (tables unchecked : List String)
    (text : String) (mentions : List Mention) : Prop where
  composed : Composed dialect text mentions
  allowed : ∀ mention ∈ mentions, mention.Allowed metadata tables unchecked
  complete : ∀ column ∈ unchecked, ∃ mention ∈ mentions, mention.column? = some column

/-- Which columns are named without a check does not depend on their order. -/
theorem Refers.of_mem_iff {dialect : Dialect} {metadata : Metadata}
    {tables unchecked others : List String} {text : String} {mentions : List Mention}
    (refers : Refers dialect metadata tables unchecked text mentions)
    (same : ∀ column, column ∈ unchecked ↔ column ∈ others) :
    Refers dialect metadata tables others text mentions where
  composed := refers.composed
  allowed mention isMentioned := by
    have isAllowed := refers.allowed mention isMentioned
    cases mention with
    | table name => exact isAllowed
    | unnamed name => exact isAllowed
    | parameter name => trivial
    | call function => trivial
    | _ => exact isAllowed.imp_right (same _).mp
  complete column isOther := refers.complete column ((same column).mpr isOther)

namespace Scope

variable {scope : Scope} {metadata : Metadata} {tables unchecked : List String} {name : Value}
variable {mention : Mention} {members : List Value}

theorem admits_of_resolved (known : scope.metadata = some metadata)
    (resolved : ∀ name ∈ members, ∃ mention, scope.mentionOf name = .ok mention) :
    metadata.Admits members := by
  intro member isMember
  obtain ⟨mention, isMention⟩ := resolved _ isMember
  obtain ⟨column, found, _⟩ := mentionOf_text isMention
  exact (columnOf_eq_ok known found).1

theorem allowed_of_mentionOf (known : scope.metadata = some metadata)
    (isText : ∃ text, name = .text text) (isMention : scope.mentionOf name = .ok mention) :
    mention.Allowed metadata tables unchecked := by
  obtain ⟨text, rfl⟩ := isText
  obtain ⟨column, found, rfl⟩ := mentionOf_text isMention
  obtain ⟨admitted, rfl⟩ := columnOf_eq_ok known found
  exact .inl (Metadata.offers_columnNameOf admitted)

theorem allowed_of_parameter? {parameter : String} (isParameter : mention.parameter? = some parameter) :
    mention.Allowed metadata tables unchecked := by
  cases mention with
  | parameter name => trivial
  | _ => cases isParameter

/-- The text of a predicate mentions columns of the type and parameters. -/
theorem allowed_of_columns {mentions : List Mention} (known : scope.metadata = some metadata)
    (texts : ∀ name ∈ members, ∃ text, name = .text text)
    (columns : ∀ mention ∈ mentions, mention.parameter? = none →
      ∃ name ∈ members, scope.mentionOf name = .ok mention) :
    ∀ mention ∈ mentions, mention.Allowed metadata tables unchecked := by
  intro mention isMentioned
  cases isParameter : mention.parameter? with
  | some parameter => exact allowed_of_parameter? isParameter
  | none =>
      obtain ⟨name, isMember, isMention⟩ := columns mention isMentioned isParameter
      exact allowed_of_mentionOf known (texts name isMember) isMention

end Scope

/-! ## Queries -/

namespace Query

variable {query : Query} {options : Options} {compiled : Compiled}

/-- The columns on both sides of a join, if its type is known. -/
def joinColumns (metadata : Metadata) (step : Option EntityType × Value × Value) : List String :=
  (step.1.bind (·.metadata.toOption)).elim [] fun inner =>
    [(metadata.columnOf step.2.1).plainText, (inner.columnOf step.2.2).plainText]

/-- The columns of orderings and of join keys. -/
def uncheckedColumns (query : Query) (metadata : Metadata) : List String :=
  (QueryChain.joins query.chain.steps).flatMap (joinColumns metadata) ++ query.sortColumns metadata

/-- The tables of a query. -/
def tables (query : Query) (table : String) : List String :=
  table :: (QueryChain.joins query.chain.steps).filterMap fun step =>
    (step.1.bind (·.metadata.toOption)).map (·.tableName)

/-- A join mentions its table, the columns on its two sides, and nothing else. -/
theorem joinMentions_allowed {metadata : Metadata} {table : String}
    {step : Option EntityType × Value × Value}
    (isJoin : step ∈ QueryChain.joins query.chain.steps) :
    ∀ mention ∈ joinMentions table metadata step,
      mention.Allowed metadata (query.tables table) (query.uncheckedColumns metadata) := by
  unfold joinMentions
  cases isInner : step.1.bind (·.metadata.toOption) with
  | none => simp
  | some inner =>
      have columns : ∀ column ∈ joinColumns metadata step,
          column ∈ query.uncheckedColumns metadata := fun column isColumn =>
        List.mem_append_left _ (List.mem_flatMap.mpr ⟨step, isJoin, isColumn⟩)
      have isTable : inner.tableName ∈ query.tables table :=
        List.mem_cons_of_mem _ (List.mem_filterMap.mpr ⟨step, isJoin, by simp [isInner]⟩)
      simp only [joinColumns, isInner, Option.elim_some, List.forall_mem_cons] at columns
      simp only [Option.elim_some, List.forall_mem_cons, List.not_mem_nil, false_implies,
        implies_true, and_true]
      exact ⟨isTable, .inr columns.1, .inr columns.2.1⟩

theorem joinMentions_complete {metadata : Metadata} {column : String} (table : String)
    {step : Option EntityType × Value × Value} (isColumn : column ∈ joinColumns metadata step) :
    ∃ mention ∈ joinMentions table metadata step, mention.column? = some column := by
  unfold joinColumns at isColumn
  unfold joinMentions
  cases isInner : step.1.bind (·.metadata.toOption) with
  | none => simp [isInner] at isColumn
  | some inner =>
      simp only [isInner, Option.elim_some, List.mem_cons, List.not_mem_nil, or_false] at isColumn
      rcases isColumn with rfl | rfl <;> simp [Mention.column?]

theorem compile_refers (accepted : query.compile options = .ok compiled)
    (texts : ∀ name ∈ query.members, ∃ text, name = .text text) :
    ∃ metadata mentions, query.metadata? = some metadata ∧ metadata.Admits query.members ∧
      Refers query.dialect metadata (query.tables (options.tableOr metadata.tableName))
        (query.uncheckedColumns metadata) compiled.sql mentions := by
  obtain ⟨metadata, other, conditions, isMetadata, _, mentioned⟩ :=
    compile_mentions query.dialect.style accepted
  refine ⟨metadata, _, isMetadata, Scope.admits_of_resolved rfl mentioned.resolved, {
    composed := mentioned.woven.composed
    allowed := ?_
    complete := ?_ }⟩
  · simp only [mentions, List.forall_mem_append, List.forall_mem_map, List.forall_mem_flatMap,
      List.forall_mem_singleton]
    refine ⟨⟨⟨⟨?_, ?_⟩, fun step isJoin => joinMentions_allowed isJoin⟩, ?_⟩, ?_⟩
    · exact fun column mapped => .inl (Metadata.offers_of_mapped mapped)
    · cases query.function? with
      | none => exact List.mem_cons_self
      | some function => trivial
    · exact Scope.allowed_of_columns rfl texts mentioned.columns
    · exact fun column isSorted => .inr (List.mem_append_right _ isSorted)
  · intro column isUnchecked
    rcases List.mem_append.mp isUnchecked with isJoined | isSorted
    · obtain ⟨step, isJoin, isColumn⟩ := List.mem_flatMap.mp isJoined
      obtain ⟨mention, isMentioned, named⟩ := joinMentions_complete _ isColumn
      refine ⟨mention, ?_, named⟩
      simp only [mentions, List.mem_append, List.mem_flatMap]
      exact .inl (.inl (.inr ⟨step, isJoin, isMentioned⟩))
    · exact ⟨.column _ column, List.mem_append_right _ (List.mem_map.mpr ⟨column, isSorted, rfl⟩), rfl⟩

end Query

/-! ## Mutations -/

namespace Statement

variable {dialect : Dialect} {style : PlaceholderStyle} {metadata : Metadata} {entity : Instance}
variable {options : Options} {compiled mutation again : Compiled} {readsBack : Bool}
variable {table : String} {columns unchecked bound : List String} {members arguments : List Value}
variable {mention : Mention} {mentions : List Mention}

theorem allowed_of_drawn (drawn : mention.DrawnFrom dialect [table] columns members arguments bound)
    (offered : ∀ column ∈ columns, metadata.Offers column ∨ column ∈ unchecked)
    (texts : ∀ name ∈ members, ∃ text, name = .text text) :
    mention.Allowed metadata [table] unchecked := by
  cases mention with
  | table name => exact drawn
  | column owner name => exact offered name drawn.2
  | entry owner name => exact offered name drawn.2
  | joined owner name => exact offered name drawn.2
  | identity owner name => exact offered name drawn.2
  | unnamed name =>
      obtain ⟨text, rfl⟩ := texts name drawn.1
      exact drawn.2.2.1 text rfl
  | parameter name => trivial
  | call function => trivial

theorem Written.refers
    (written :
      Written dialect style readsBack [table] columns members arguments mutation compiled again mentions)
    (offered : ∀ column ∈ columns, metadata.Offers column ∨ column ∈ unchecked)
    (texts : ∀ name ∈ members, ∃ text, name = .text text)
    (complete : ∀ column ∈ unchecked, ∃ mention ∈ mentions, mention.column? = some column) :
    Refers dialect metadata [table] unchecked compiled.sql mentions where
  composed := written.batched.composed
  allowed mention isMention := allowed_of_drawn (written.drawn mention isMention) offered texts
  complete := complete

theorem offers_mappedColumns (metadata : Metadata) :
    ∀ column ∈ metadata.mappedColumns.map (·.columnName), metadata.Offers column := by
  simp only [List.forall_mem_map]
  exact fun column => Metadata.offers_of_mapped

/-- Members that have columns are mapped. -/
theorem offers_memberColumns (resolved : Resolved dialect metadata members)
    (texts : ∀ name ∈ members, ∃ text, name = .text text) :
    ∀ column ∈ memberColumns metadata members, metadata.Offers column := by
  simp only [memberColumns, List.forall_mem_map]
  intro name isMember
  obtain ⟨text, rfl⟩ := texts name isMember
  exact Metadata.offers_columnNameOf (Scope.admits_of_resolved rfl resolved text isMember)

theorem insert_refers (accepted : insert dialect entity options = .ok compiled) :
    ∃ metadata mentions, entity.type.metadata = .ok metadata ∧
      Refers dialect metadata [options.tableOr metadata.tableName] [] compiled.sql mentions := by
  obtain ⟨metadata, _, _, mentions, isMetadata, _, _, written⟩ :=
    insert_mentions dialect.style accepted
  exact ⟨metadata, mentions, isMetadata, written.refers
    (fun column isMapped => .inl (offers_mappedColumns metadata column isMapped)) nofun nofun⟩

theorem update_refers {condition : Option Predicate}
    (accepted : update dialect entity condition options = .ok compiled)
    (texts : ∀ name ∈ condition.toList.flatMap Predicate.members, ∃ text, name = .text text) :
    ∃ metadata mentions, entity.type.metadata = .ok metadata ∧
      metadata.Admits (condition.toList.flatMap Predicate.members) ∧
      Refers dialect metadata [options.tableOr metadata.tableName] [] compiled.sql mentions := by
  obtain ⟨metadata, _, _, mentions, isMetadata, resolved, _, _, written⟩ :=
    update_mentions dialect.style accepted
  refine ⟨metadata, mentions, isMetadata, Scope.admits_of_resolved rfl resolved,
    written.refers (fun column isColumn => .inl ?_) texts nofun⟩
  rcases List.mem_append.mp isColumn with isMapped | isMember
  · exact offers_mappedColumns metadata column isMapped
  · exact offers_memberColumns resolved texts column isMember

theorem delete_refers {type : EntityType} {condition : Option Predicate}
    {keys : Option KeyValues} {warnings : List Warning}
    (accepted : delete dialect type condition keys options = .ok (compiled, warnings))
    (texts : ∀ name ∈ condition.toList.flatMap Predicate.members, ∃ text, name = .text text) :
    ∃ metadata mentions, type.metadata = .ok metadata ∧
      metadata.Admits (condition.toList.flatMap Predicate.members) ∧
      Refers dialect metadata [options.tableOr metadata.tableName]
        (deletedColumns metadata condition keys) compiled.sql mentions := by
  obtain ⟨metadata, _, mentions, isMetadata, resolved, _, written, complete⟩ :=
    delete_mentions dialect.style accepted
  refine ⟨metadata, mentions, isMetadata, Scope.admits_of_resolved rfl resolved,
    written.refers (fun column isColumn => ?_) texts
      fun column isDeleted => ⟨_, complete column isDeleted, rfl⟩⟩
  rcases List.mem_append.mp isColumn with isMember | isDeleted
  · exact .inl (offers_memberColumns resolved texts column isMember)
  · exact .inr isDeleted

/-- Only the names of keys matter, and not how often they come. -/
theorem mem_deletedColumns_ofPairs {pairs : List (String × Value)} {column : String} :
    column ∈ deletedColumns metadata none
        (some (.mapping (namedEntries (Association.ofPairs pairs)))) ↔
      column ∈ pairs.map fun entry => metadata.columnNameOf entry.1 := by
  have byName (entries : List (String × Value)) :
      column ∈ entries.map (fun entry => metadata.columnNameOf entry.1) ↔
        ∃ name ∈ entries.map (·.1), metadata.columnNameOf name = column := by
    simp
  calc
    _ ↔ column ∈ (Association.ofPairs pairs).map fun entry => metadata.columnNameOf entry.1 := by
      rw [← filterMap_namedEntries]
      rfl
    _ ↔ ∃ name ∈ pairs.map (·.1), metadata.columnNameOf name = column := by
      rw [byName]
      simp only [Association.mem_keys_ofPairs]
    _ ↔ _ := (byName pairs).symm

theorem deleteEntity_refers {warnings : List Warning}
    (accepted : deleteEntity dialect entity options = .ok (compiled, warnings)) :
    ∃ metadata mentions, entity.type.metadata = .ok metadata ∧
      Refers dialect metadata [options.tableOr metadata.tableName]
        (metadata.keyColumns.map fun column => metadata.columnNameOf column.name) compiled.sql
        mentions := by
  obtain ⟨metadata, isMetadata, _, deleted⟩ := deleteEntity_eq_ok accepted
  obtain ⟨resolved, mentions, isResolved, _, refers⟩ := delete_refers deleted (by simp)
  rw [isMetadata] at isResolved
  cases isResolved
  refine ⟨metadata, mentions, isMetadata, refers.of_mem_iff fun column => ?_⟩
  rw [mem_deletedColumns_ofPairs, List.map_map]
  rfl

end Statement

end EntitySql
