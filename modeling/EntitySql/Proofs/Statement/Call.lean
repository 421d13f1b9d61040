import EntitySql.Proofs.Query.Placeholder
import EntitySql.Proofs.Statement.Withheld

/-!
# What calls mention

The statement of a call through a manager mentions the names of its tables and columns, the
arguments of its function, and its own parameters, in every placeholder style alike.
-/

namespace EntitySql

open Sql (Mention)
open Statement (Written memberColumns Resolved)

namespace Sql.Mention

/-- The values that are written into a text as arguments. -/
def arguments : Mention → List Value
  | call function => function.arguments
  | _ => []

theorem DrawnFrom.arguments_subset {mention : Mention} {tables columns parameters : List String}
    {members arguments : List Value}
    (drawn : mention.DrawnFrom dialect tables columns members arguments parameters) :
    mention.arguments ⊆ arguments := by
  cases mention with
  | call function => exact fun argument isArgument => drawn.2 argument isArgument
  | _ => exact List.nil_subset _

end Sql.Mention

/-! ## Queries -/

namespace Query

variable {query : Query} {options : Options} {compiled : Compiled} {metadata : Metadata}
variable {style : PlaceholderStyle} {other table : String} {conditions : List Mention}

/-- Only the function of a query has arguments. -/
theorem arguments_mentions (query : Query) (metadata : Metadata) (table : String)
    (silent : ∀ mention ∈ conditions, mention.arguments = []) :
    (query.mentions metadata table conditions).flatMap Mention.arguments = query.arguments := by
  have source : (query.function?.elim (Mention.table table) .call).arguments = query.arguments := by
    unfold arguments
    cases query.function? <;> rfl
  have entries : (metadata.mappedColumns.map fun column =>
      Mention.entry (query.qualifier table) column.columnName).flatMap Mention.arguments = [] :=
    List.flatMap_eq_nil_iff.mpr (by simp [Mention.arguments])
  have joins : ((QueryChain.joins query.chain.steps).flatMap
      (joinMentions table metadata)).flatMap Mention.arguments = [] := by
    rw [List.flatMap_eq_nil_iff, List.forall_mem_flatMap]
    intro step _
    unfold joinMentions
    cases step.1.bind (·.metadata.toOption) <;> simp [Mention.arguments]
  have sorted : ((query.sortColumns metadata).map
      (Mention.column (query.qualifier table))).flatMap Mention.arguments = [] :=
    List.flatMap_eq_nil_iff.mpr (by simp [Mention.arguments])
  simp only [mentions, List.flatMap_append, entries, joins, sorted,
    List.flatMap_eq_nil_iff.mpr silent]
  simp [source]

/-- A query and its counterpart in another style, with the members of its filters. -/
theorem compile_written (style : PlaceholderStyle)
    (accepted : query.compile options = .ok compiled) :
    ∃ metadata again mentions, query.metadata? = some metadata ∧
      (query.inStyle style).compile options = .ok again ∧
      Written query.dialect style false (query.names options) (query.names options) query.members
        query.arguments compiled compiled again mentions ∧
      mentions.flatMap Mention.arguments = query.arguments ∧
      metadata.Admits query.members := by
  obtain ⟨metadata, other, conditions, isMetadata, again, mentioned⟩ :=
    compile_mentions style accepted
  exact ⟨metadata, _, _, isMetadata, again, {
    batched := .alone mentioned.begins mentioned.woven
    parameters := rfl
    readable := mentioned.readable
    drawn := mentioned.drawn isMetadata },
    arguments_mentions query metadata _ fun mention isCondition => List.subset_nil.mp
      (mentioned.conditions_drawn isMetadata mention isCondition).arguments_subset,
    Scope.admits_of_resolved rfl mentioned.resolved⟩

end Query

/-! ## Calls -/

namespace Work

/-- The names of tables and columns that a call may write. -/
def names (work : Work) : List String :=
  work.metadata?.elim [] fun metadata =>
    work.tables metadata ++ metadata.mappedColumns.map (·.columnName) ++
      memberColumns metadata work.members ++ work.uncheckedColumns metadata

/-- The arguments of the function that a call reads from. -/
def arguments : Work → List Value
  | query source condition _ => (filtered source condition).arguments
  | _ => []

/-- Whether there are keys by which a mutation reads its row back, and it is to do so. -/
def readsBack : Work → Bool
  | insert entity options _ => options.selectAfterMutation &&
      entity.type.metadata.toOption.any (!·.keyColumns.isEmpty)
  | update entity _ options => options.selectAfterMutation &&
      entity.type.metadata.toOption.any (!·.keyColumns.isEmpty)
  | _ => false

/-- The same call without reading its row back. -/
def withoutReadBack : Work → Work
  | insert entity options resultType =>
    insert entity { options with selectAfterMutation := false } resultType
  | update entity condition options =>
    update entity condition { options with selectAfterMutation := false }
  | work => work

/-- The same call with placeholders in another style. -/
def inStyle (work : Work) (style : PlaceholderStyle) : Work :=
  match work with
  | query source condition options => query (source.inStyle style) condition options
  | work => work

variable {dialect : Dialect} {work : Work} {plan : Plan} {type : EntityType}
variable {predicate : Predicate} {options : Options} {metadata : Metadata}

theorem names_eq (isMetadata : work.metadata? = some metadata) :
    work.names = work.tables metadata ++ metadata.mappedColumns.map (·.columnName) ++
      memberColumns metadata work.members ++ work.uncheckedColumns metadata := by
  rw [names, isMetadata]
  rfl

theorem tables_subset (isMetadata : work.metadata? = some metadata) :
    work.tables metadata ⊆ work.names := by
  rw [names_eq isMetadata]
  exact fun name isTable => by simp [isTable]

theorem mapped_subset (isMetadata : work.metadata? = some metadata) :
    metadata.mappedColumns.map (·.columnName) ⊆ work.names := by
  rw [names_eq isMetadata]
  exact fun name isMapped => by simp only [List.mem_append, isMapped, or_true, true_or]

theorem memberColumns_subset (isMetadata : work.metadata? = some metadata) :
    memberColumns metadata work.members ⊆ work.names := by
  rw [names_eq isMetadata]
  exact fun name isMember => by simp [isMember]

theorem uncheckedColumns_subset (isMetadata : work.metadata? = some metadata) :
    work.uncheckedColumns metadata ⊆ work.names := by
  rw [names_eq isMetadata]
  exact fun name isUnchecked => by simp [isUnchecked]

/-- A join names its table, and columns that are not checked. -/
theorem joinNames_subset {query : Query} {table : String}
    {step : Option EntityType × Value × Value}
    (isJoin : step ∈ QueryChain.joins query.chain.steps) :
    Query.joinNames metadata step ⊆ query.tables table ++ query.uncheckedColumns metadata := by
  unfold Query.joinNames
  cases isInner : step.1.bind (·.metadata.toOption) with
  | none => exact List.nil_subset _
  | some inner =>
      have columns : Query.joinColumns metadata step ⊆ query.uncheckedColumns metadata :=
        fun column isColumn =>
          List.mem_append_left _ (List.mem_flatMap.mpr ⟨step, isJoin, isColumn⟩)
      have isTable : inner.tableName ∈ query.tables table :=
        List.mem_cons_of_mem _ (List.mem_filterMap.mpr ⟨step, isJoin, by simp [isInner]⟩)
      simp only [Query.joinColumns, isInner, Option.elim_some] at columns
      exact List.cons_subset.mpr ⟨List.mem_append_left _ isTable,
        fun column isColumn => List.mem_append_right _ (columns isColumn)⟩

theorem query_names_subset {query : Query} (isMetadata : query.metadata? = some metadata) :
    query.names options ⊆
      query.tables (options.tableOr metadata.tableName) ++
        metadata.mappedColumns.map (·.columnName) ++
        memberColumns metadata query.members ++ query.uncheckedColumns metadata := by
  rw [Query.names_eq isMetadata]
  intro name isName
  rcases List.mem_append.mp isName with isName | isSorted
  · rcases List.mem_append.mp isName with isName | isJoined
    · rcases List.mem_append.mp isName with isOwn | isMember
      · rcases List.mem_cons.mp isOwn with rfl | isMapped
        · simp [Query.tables]
        · simp only [List.mem_append]
          exact .inl (.inl (.inr isMapped))
      · simp only [List.mem_append]
        exact .inl (.inr isMember)
    · obtain ⟨step, isJoin, isName⟩ := List.mem_flatMap.mp isJoined
      rcases List.mem_append.mp (joinNames_subset isJoin isName) with isTable | isUnchecked
      · simp only [List.mem_append]
        exact .inl (.inl (.inl isTable))
      · exact List.mem_append_right _ isUnchecked
  · simp only [Query.uncheckedColumns, List.mem_append]
    exact .inr (.inr isSorted)

/-- Key columns that are not refused are mapped. -/
theorem memberColumns_subset_of_keys {members : List Value}
    (areKeys : ∀ name ∈ members, ∃ column ∈ metadata.keyColumns, name = .text column.name)
    (admits : metadata.Admits members) :
    memberColumns metadata members ⊆ metadata.mappedColumns.map (·.columnName) := by
  intro column isColumn
  obtain ⟨name, isMember, rfl⟩ := List.mem_map.mp isColumn
  obtain ⟨key, isKey, rfl⟩ := areKeys name isMember
  have isColumn : key ∈ metadata.columns := List.mem_of_mem_filter (List.mem_of_mem_filter isKey)
  have declared : (metadata.find? key.name).isSome = true :=
    List.find?_isSome.mpr ⟨key, isColumn, by simp⟩
  obtain ⟨column, found⟩ := Option.isSome_iff_exists.mp declared
  have mapped : column.notMapped = false := by simpa [found] using admits key.name isMember
  have named : (metadata.columnOf (.text key.name)).plainText = column.columnName := by
    simp only [Metadata.columnOf, Metadata.columnNameOf, found]
    rfl
  rw [named]
  exact List.mem_map_of_mem
    (List.mem_filter.mpr ⟨List.mem_of_find?_eq_some found, by simp [mapped]⟩)

/-- The query for a single row mentions columns of its type only. -/
theorem planSingle_written (style : PlaceholderStyle)
    (planned : planSingle dialect type predicate options = .ok plan)
    (isMetadata : type.metadata = .ok metadata) (namesKeys : NamesKeys metadata predicate) :
    ∃ again mentions, planSingle (dialect.inStyle style) type predicate options = .ok again ∧
      Written dialect style false
        (options.tableOr metadata.tableName :: metadata.mappedColumns.map (·.columnName))
        (options.tableOr metadata.tableName :: metadata.mappedColumns.map (·.columnName))
        [] [] plan.compiled plan.compiled again.compiled mentions := by
  obtain ⟨compiled, accepted, planned⟩ := Fault.bind_eq_ok.mp planned
  cases planned
  obtain ⟨texts, areKeys⟩ := namesKeys
  obtain ⟨known, again, mentions, isKnown, ranAgain, written, _, admits⟩ :=
    Query.compile_written style accepted
  have sameMetadata : type.metadata.toOption = some known := isKnown
  rw [isMetadata] at sameMetadata
  cases sameMetadata
  have members : ((Query.start dialect (some type)).filter predicate).members =
      predicate.memberNames := by
    have single : ((Query.start dialect (some type)).filter predicate).members =
        predicate.members := List.append_nil _
    rw [single]
    simp [Predicate.members, texts.1, Except.toOption]
  have names : ((Query.start dialect (some type)).filter predicate).names options ⊆
      options.tableOr metadata.tableName :: metadata.mappedColumns.map (·.columnName) := by
    rw [Query.names_eq isKnown, members]
    have inside : memberColumns metadata predicate.memberNames ⊆ _ :=
      memberColumns_subset_of_keys areKeys (members ▸ admits)
    have none :
        QueryChain.joins ((Query.start dialect (some type)).filter predicate).chain.steps = [] ∧
        ((Query.start dialect (some type)).filter predicate).sortColumns metadata = [] := ⟨rfl, rfl⟩
    rw [none.1, none.2, List.flatMap_nil, List.append_nil, List.append_nil]
    exact List.append_subset.mpr
      ⟨List.Subset.refl _, List.Subset.trans inside (List.subset_cons_self _ _)⟩
  refine ⟨_, mentions, Fault.bind_eq_ok.mpr ⟨again, ranAgain, rfl⟩, {
    batched := written.batched
    parameters := written.parameters
    readable := written.readable
    drawn := fun mention isMention => ?_ }⟩
  have drawn := written.drawn mention isMention
  rw [members] at drawn
  exact (drawn.of_texts texts.2).mono names names (List.Subset.refl _) (List.Subset.refl _)
    (List.Subset.refl _)

theorem written_noArguments {dialect : Dialect} {style : PlaceholderStyle} {readsBack : Bool}
    {tables columns : List String} {members : List Value} {mutation compiled again : Compiled}
    {mentions : List Mention}
    (written : Written dialect style readsBack tables columns members [] mutation compiled again
      mentions) : mentions.flatMap Mention.arguments = [] :=
  List.flatMap_eq_nil_iff.mpr fun mention isMention =>
    List.subset_nil.mp (written.drawn mention isMention).arguments_subset

theorem filtered_inStyle (source : Query) (condition : Option Predicate)
    (style : PlaceholderStyle) :
    filtered (source.inStyle style) condition = (filtered source condition).inStyle style := by
  cases condition <;> rfl

theorem plan_query (source : Query) (condition : Option Predicate) (options : Options)
    (dialect : Dialect) :
    (Work.query source condition options).plan dialect =
      ((filtered source condition).compile options).bind fun compiled =>
        .ok { kind := .query, compiled, type := (filtered source condition).rowType } := by
  cases condition <;> rfl

theorem deleteEntity_eq_delete {entity : Instance}
    (isMetadata : entity.type.metadata = .ok metadata) (someKeys : metadata.keyColumns ≠ [])
    (dialect : Dialect) :
    Statement.deleteEntity dialect entity options =
      Statement.delete dialect entity.type none (some (.mapping (namedEntries (Association.ofPairs
        (metadata.keyColumns.map fun column => (column.name, entity.get column.name))))))
        options := by
  have found : metadata.primaryKey entity.type.name = .ok metadata.keyColumns := by
    unfold Metadata.primaryKey
    split
    · rename_i none
      exact absurd none someKeys
    · rfl
  simp only [Statement.deleteEntity, isMetadata, found, bind, Except.bind]

/-- The plan of a call, the one without a SELECT behind its mutation, and the one in another
style have the same mentions, among them the arguments of the call. -/
structure PlannedAs (work : Work) (dialect : Dialect) (style : PlaceholderStyle)
    (plan mutation again : Plan) (mentions : List Mention) : Prop where
  alone : work.withoutReadBack.plan dialect = .ok mutation
  restyled : (work.inStyle style).plan (dialect.inStyle style) = .ok again
  written : Written (work.writtenIn dialect) style work.readsBack work.names work.names
    work.members work.arguments mutation.compiled plan.compiled again.compiled mentions
  arguments : mentions.flatMap Mention.arguments = work.arguments

section Calls

variable (style : PlaceholderStyle) {entity : Instance} {condition : Option Predicate}

theorem query_planned {source : Query}
    (planned : (Work.query source condition options).plan dialect = .ok plan) :
    ∃ mutation again mentions,
      (Work.query source condition options).PlannedAs dialect style plan mutation again mentions := by
  rw [plan_query] at planned
  obtain ⟨compiled, accepted, planned⟩ := Fault.bind_eq_ok.mp planned
  cases planned
  obtain ⟨metadata, again, mentions, isMetadata, ranAgain, written, areArguments, _⟩ :=
    Query.compile_written style accepted
  have isKnown : (Work.query source condition options).metadata? = some metadata := isMetadata
  have names : (filtered source condition).names options ⊆
      (Work.query source condition options).names := by
    rw [names_eq isKnown]
    exact query_names_subset isMetadata
  have sameDialect : (filtered source condition).dialect = source.dialect := by
    cases condition <;> rfl
  rw [sameDialect] at written
  rw [← filtered_inStyle] at ranAgain
  exact ⟨_, _, mentions, {
    alone := (plan_query ..).trans (Fault.bind_eq_ok.mpr ⟨compiled, accepted, rfl⟩)
    restyled := (plan_query ..).trans (Fault.bind_eq_ok.mpr ⟨again, ranAgain, rfl⟩)
    written := written.mono names names (List.Subset.refl _) (List.Subset.refl _)
    arguments := areArguments }⟩

theorem getById_planned {given : Option EntityType} {key : Value}
    (planned : (Work.getById given key options).plan dialect = .ok plan) :
    ∃ mutation again mentions,
      (Work.getById given key options).PlannedAs dialect style plan mutation again mentions := by
  obtain ⟨type, metadata, predicate, rfl, isMetadata, namesKeys, single⟩ := plan_getById planned
  obtain ⟨again, mentions, ranAgain, written⟩ :=
    planSingle_written style (single dialect ▸ planned) isMetadata namesKeys
  have isKnown : (Work.getById (some type) key options).metadata? = some metadata := by
    simp [metadata?, isMetadata, Except.toOption]
  have names := List.cons_subset.mpr
    ⟨tables_subset isKnown List.mem_cons_self, mapped_subset isKnown⟩
  exact ⟨plan, again, mentions, {
    alone := planned
    restyled := (single _).trans ranAgain
    written := written.mono names names (List.nil_subset _) (List.nil_subset _)
    arguments := written_noArguments written }⟩

theorem getByKeys_planned {given : Option EntityType} {keys : Option KeyValues}
    (planned : (Work.getByKeys given keys options).plan dialect = .ok plan) :
    ∃ mutation again mentions,
      (Work.getByKeys given keys options).PlannedAs dialect style plan mutation again mentions := by
  obtain ⟨type, metadata, predicate, rfl, isMetadata, namesKeys, single⟩ := plan_getByKeys planned
  obtain ⟨again, mentions, ranAgain, written⟩ :=
    planSingle_written style (single dialect ▸ planned) isMetadata namesKeys
  have isKnown : (Work.getByKeys (some type) keys options).metadata? = some metadata := by
    simp [metadata?, isMetadata, Except.toOption]
  have names := List.cons_subset.mpr
    ⟨tables_subset isKnown List.mem_cons_self, mapped_subset isKnown⟩
  exact ⟨plan, again, mentions, {
    alone := planned
    restyled := (single _).trans ranAgain
    written := written.mono names names (List.nil_subset _) (List.nil_subset _)
    arguments := written_noArguments written }⟩

theorem insert_planned {resultType : Option EntityType}
    (planned : (Work.insert entity options resultType).plan dialect = .ok plan) :
    ∃ mutation again mentions,
      (Work.insert entity options resultType).PlannedAs dialect style plan mutation again
        mentions := by
  obtain ⟨compiled, accepted, planned⟩ := Fault.bind_eq_ok.mp planned
  cases planned
  obtain ⟨metadata, mutation, again, mentions, isMetadata, alone, ranAgain, written⟩ :=
    Statement.insert_mentions style accepted
  have isKnown : (Work.insert entity options resultType).metadata? = some metadata := by
    simp [metadata?, isMetadata, Except.toOption]
  refine ⟨_, _, mentions, {
    alone := Fault.bind_eq_ok.mpr ⟨mutation, alone, rfl⟩
    restyled := Fault.bind_eq_ok.mpr ⟨again, ranAgain, rfl⟩
    written := ?_
    arguments := written_noArguments written }⟩
  simp only [mutationPlan_compiled, readsBack, isMetadata, Except.toOption, Option.any_some]
  exact written.mono (tables_subset isKnown) (mapped_subset isKnown) (List.nil_subset _)
    (List.nil_subset _)

theorem update_planned
    (planned : (Work.update entity condition options).plan dialect = .ok plan) :
    ∃ mutation again mentions,
      (Work.update entity condition options).PlannedAs dialect style plan mutation again
        mentions := by
  obtain ⟨compiled, accepted, planned⟩ := Fault.bind_eq_ok.mp planned
  cases planned
  obtain ⟨metadata, mutation, again, mentions, isMetadata, _, alone, ranAgain, written⟩ :=
    Statement.update_mentions style accepted
  have isKnown : (Work.update entity condition options).metadata? = some metadata := by
    simp [metadata?, isMetadata, Except.toOption]
  refine ⟨_, _, mentions, {
    alone := Fault.bind_eq_ok.mpr ⟨mutation, alone, rfl⟩
    restyled := Fault.bind_eq_ok.mpr ⟨again, ranAgain, rfl⟩
    written := ?_
    arguments := written_noArguments written }⟩
  simp only [mutationPlan_compiled, readsBack, isMetadata, Except.toOption, Option.any_some]
  exact written.mono (tables_subset isKnown)
    (List.append_subset.mpr ⟨mapped_subset isKnown, memberColumns_subset isKnown⟩)
    (List.Subset.refl _) (List.nil_subset _)

theorem deleteRows_planned {keys : Option KeyValues}
    (planned : (Work.deleteRows type condition keys options).plan dialect = .ok plan) :
    ∃ mutation again mentions,
      (Work.deleteRows type condition keys options).PlannedAs dialect style plan mutation again
        mentions := by
  obtain ⟨⟨compiled, warnings⟩, accepted, planned⟩ := Fault.bind_eq_ok.mp planned
  cases planned
  obtain ⟨metadata, again, mentions, isMetadata, _, ranAgain, written, _⟩ :=
    Statement.delete_mentions style accepted
  have isKnown : (Work.deleteRows type condition keys options).metadata? = some metadata := by
    simp [metadata?, isMetadata, Except.toOption]
  exact ⟨_, _, mentions, {
    alone := Fault.bind_eq_ok.mpr ⟨_, accepted, rfl⟩
    restyled := Fault.bind_eq_ok.mpr ⟨_, ranAgain, rfl⟩
    written := written.mono (tables_subset isKnown)
      (List.append_subset.mpr ⟨memberColumns_subset isKnown, uncheckedColumns_subset isKnown⟩)
      (List.Subset.refl _) (List.nil_subset _)
    arguments := written_noArguments written }⟩

theorem deleteEntity_planned
    (planned : (Work.deleteEntity entity options).plan dialect = .ok plan) :
    ∃ mutation again mentions,
      (Work.deleteEntity entity options).PlannedAs dialect style plan mutation again mentions := by
  obtain ⟨⟨compiled, warnings⟩, accepted, planned⟩ := Fault.bind_eq_ok.mp planned
  cases planned
  obtain ⟨metadata, isMetadata, someKeys, deleted⟩ := Statement.deleteEntity_eq_ok accepted
  obtain ⟨resolved, again, mentions, isResolved, _, ranAgain, written, _⟩ :=
    Statement.delete_mentions style deleted
  rw [isMetadata] at isResolved
  cases isResolved
  have isKnown : (Work.deleteEntity entity options).metadata? = some metadata := by
    simp [metadata?, isMetadata, Except.toOption]
  rw [← deleteEntity_eq_delete isMetadata someKeys] at ranAgain
  refine ⟨_, _, mentions, {
    alone := Fault.bind_eq_ok.mpr ⟨_, accepted, rfl⟩
    restyled := Fault.bind_eq_ok.mpr ⟨_, ranAgain, rfl⟩
    written := written.mono (tables_subset isKnown) ?_ (List.nil_subset _) (List.nil_subset _)
    arguments := written_noArguments written }⟩
  intro column isColumn
  apply uncheckedColumns_subset isKnown
  have isDeleted := Statement.mem_deletedColumns_ofPairs.mp isColumn
  rwa [List.map_map] at isDeleted

end Calls

theorem plan_written (style : PlaceholderStyle) (planned : work.plan dialect = .ok plan) :
    ∃ mutation again mentions, work.PlannedAs dialect style plan mutation again mentions := by
  cases work with
  | query => exact query_planned style planned
  | getById => exact getById_planned style planned
  | getByKeys => exact getByKeys_planned style planned
  | insert => exact insert_planned style planned
  | update => exact update_planned style planned
  | deleteRows => exact deleteRows_planned style planned
  | deleteEntity => exact deleteEntity_planned style planned

end Work

end EntitySql
