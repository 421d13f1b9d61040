import EntitySql.Proofs.Predicate.Origin
import EntitySql.Proofs.Query.Mention
import EntitySql.Samples

/-!
# Placeholders and parameters of queries

The parameters of a query are the constants of its filters, numbered in the order in
which they are rendered, and its text has one placeholder for each of them in the same
order.
-/

namespace EntitySql

open Sql (Mention placeholdersIn)

namespace Query

variable {query : Query} {options : Options} {compiled : Compiled} {metadata : Metadata}
variable {table other : String} {conditions : List Mention} {name : Value} {mention : Mention}
variable {style : PlaceholderStyle} {bound : List String}

/-- The table and the keys of a join, if its type is known. -/
def joinNames (metadata : Metadata) (step : Option EntityType × Value × Value) : List String :=
  (step.1.bind (·.metadata.toOption)).elim [] fun inner =>
    [inner.tableName, (metadata.columnOf step.2.1).plainText,
      (inner.columnOf step.2.2).plainText]

/-- The names of tables and columns in a query. -/
def names (query : Query) (options : Options) : List String :=
  query.metadata?.elim [] fun metadata =>
    options.tableOr metadata.tableName :: metadata.mappedColumns.map (·.columnName) ++
      query.members.map (fun name => (metadata.columnOf name).plainText) ++
      (QueryChain.joins query.chain.steps).flatMap (joinNames metadata) ++
      query.sortColumns metadata

/-- The arguments of the function that is read from. -/
def arguments (query : Query) : List Value := query.function?.elim [] (·.arguments)

/-- The values in a query that are not bound to parameters. -/
def literals (query : Query) : List Value :=
  query.members ++ query.function?.elim [] (·.arguments)

section Drawn

variable (isMetadata : query.metadata? = some metadata)

include isMetadata in
theorem names_eq : query.names options =
    options.tableOr metadata.tableName :: metadata.mappedColumns.map (·.columnName) ++
      query.members.map (fun name => (metadata.columnOf name).plainText) ++
      (QueryChain.joins query.chain.steps).flatMap (joinNames metadata) ++
      query.sortColumns metadata := by
  rw [names, isMetadata]
  rfl

include isMetadata in
theorem qualifier_mem_names (options : Options) :
    ∀ owner ∈ query.qualifier (options.tableOr metadata.tableName),
      owner ∈ query.names options := by
  rw [names_eq isMetadata]
  unfold Query.qualifier
  split
  · simp
  · simp

include isMetadata in
theorem joinMentions_drawn {step : Option EntityType × Value × Value}
    (member : step ∈ QueryChain.joins query.chain.steps) :
    ∀ mention ∈ joinMentions (options.tableOr metadata.tableName) metadata step,
      mention.DrawnFrom query.dialect (query.names options) (query.names options) query.members
        query.arguments bound := by
  have isName : ∀ name ∈ joinNames metadata step, name ∈ query.names options := by
    intro name isName
    rw [names_eq isMetadata]
    simp only [List.mem_append]
    exact .inl (.inr (List.mem_flatMap.mpr ⟨step, member, isName⟩))
  have isTable : options.tableOr metadata.tableName ∈ query.names options := by
    rw [names_eq isMetadata]
    simp
  unfold joinNames at isName
  unfold joinMentions
  cases isInner : step.1.bind (·.metadata.toOption) with
  | none => simp
  | some inner =>
      simp only [isInner, Option.elim_some, List.forall_mem_cons, List.not_mem_nil,
        false_implies, implies_true, and_true] at isName ⊢
      obtain ⟨innerTable, outerKey, innerKey⟩ := isName
      exact ⟨innerTable, ⟨isTable, outerKey⟩, ⟨innerTable, innerKey⟩⟩

include isMetadata in
/-- The filters mention columns of members and parameters. -/
theorem Mentions.conditions_drawn
    (mentioned : query.Mentions style metadata (options.tableOr metadata.tableName) compiled
      other conditions) :
    ∀ mention ∈ conditions,
      mention.DrawnFrom query.dialect (query.names options) (query.names options) query.members []
        (compiled.parameters.map (·.1)) := by
  change ∀ mention ∈ conditions, mention.DrawnFrom
    (query.scope metadata (options.tableOr metadata.tableName)).dialect _ _ _ _ _
  refine Scope.columns_drawn rfl (qualifier_mem_names isMetadata options) (fun name member => ?_)
    mentioned.parameters ?_ mentioned.columns
  · rw [names_eq isMetadata]
    simp only [List.mem_append]
    exact .inl (.inl (.inr (List.mem_map_of_mem member)))
  · intro name listed
    obtain ⟨number, inRange, rfl⟩ := List.mem_map.mp listed
    refine ⟨?_, number, rfl⟩
    rw [mentioned.entries]
    simpa [Parameters.numbered] using ⟨number, List.mem_range.mp inRange, rfl⟩

include isMetadata in
/-- All that a query mentions comes from its names, its literals and its parameters. -/
theorem Mentions.drawn
    (mentioned : query.Mentions style metadata (options.tableOr metadata.tableName) compiled
      other conditions) :
    ∀ mention ∈ query.mentions metadata (options.tableOr metadata.tableName) conditions,
      mention.DrawnFrom query.dialect (query.names options) (query.names options) query.members
        query.arguments (compiled.parameters.map (·.1)) := by
  have qualifier := qualifier_mem_names isMetadata options
  simp only [Query.mentions, List.forall_mem_append, List.forall_mem_map, List.forall_mem_flatMap,
    List.forall_mem_singleton]
  refine ⟨⟨⟨⟨?_, ?_⟩, ?_⟩, ?_⟩, ?_⟩
  · intro column member
    refine ⟨qualifier, ?_⟩
    rw [names_eq isMetadata]
    simp only [List.mem_append, List.mem_cons]
    exact .inl (.inl (.inl (.inr (List.mem_map_of_mem member))))
  · have called := mentioned.called
    cases isFunction : query.function? with
    | none =>
        change _ ∈ query.names options
        rw [names_eq isMetadata]
        simp
    | some function =>
        exact ⟨called function isFunction, fun argument member => by
          simpa [arguments, isFunction] using member⟩
  · exact fun step member => joinMentions_drawn isMetadata member
  · exact fun mention isCondition =>
      (mentioned.conditions_drawn isMetadata mention isCondition).mono
        (List.Subset.refl _) (List.Subset.refl _) (List.Subset.refl _) (List.nil_subset _)
      (List.Subset.refl _)
  · intro column member
    refine ⟨qualifier, ?_⟩
    rw [names_eq isMetadata]
    exact List.mem_append_right _ member

end Drawn

theorem Mentions.readable
    (mentioned : query.Mentions style metadata table compiled other conditions) :
    ∀ name ∈ compiled.parameters.map (·.1), (Sql.Operand.parameter name).Readable := by
  intro name isParameter
  rw [mentioned.entries] at isParameter
  obtain ⟨number, _, rfl⟩ : ∃ number < query.constants.length,
      Parameters.generatedName number = name := by
    simpa [Parameters.numbered] using isParameter
  exact ⟨Parameters.generatedName_ne_empty number, Parameters.isWord_generatedName number⟩

/-- Only the filters of a query mention parameters. -/
theorem parameters_mentions (query : Query) (metadata : Metadata) (table : String)
    (conditions : List Mention) :
    (query.mentions metadata table conditions).filterMap (·.parameter?) =
      conditions.filterMap (·.parameter?) := by
  have source : (query.function?.elim (Mention.table table) .call).parameter? = none := by
    cases query.function? <;> rfl
  have joins : ((QueryChain.joins query.chain.steps).flatMap
      (joinMentions table metadata)).filterMap (·.parameter?) = [] := by
    rw [List.filterMap_eq_nil_iff, List.forall_mem_flatMap]
    intro step _
    unfold joinMentions
    cases step.1.bind (·.metadata.toOption) <;> simp [Mention.parameter?]
  have silent {α : Type} (items : List α) (mention : α → Mention)
      (noParameter : ∀ item, (mention item).parameter? = none) :
      (items.map mention).filterMap (·.parameter?) = [] := by
    simp [noParameter]
  simp only [Query.mentions, List.filterMap_append, joins]
  rw [silent _ _ fun _ => rfl, silent _ _ fun _ => rfl]
  simp [source]

theorem Mentions.placeholders
    (mentioned : query.Mentions style metadata table compiled other conditions)
    (unquoted : ∀ mention ∈ query.mentions metadata table conditions,
      mention.Unquoted query.dialect) :
    placeholdersIn query.dialect compiled.sql.toList =
      (List.range query.constants.length).map Parameters.generatedName := by
  rw [mentioned.woven.composed.placeholders unquoted, parameters_mentions, mentioned.parameters]

/-- The parameters of a query are the constants of its filters in the order in which they
are rendered, numbered from zero on, and outside of quoted text the placeholders of its
text are these parameters in the same order.  No name may be quoted already; that the
texts of numbers are those of numbers is what values promise. -/
theorem compile_numbers_placeholders (query : Query) (options : Options) (compiled : Compiled)
    (accepted : query.compile options = .ok compiled)
    (unquoted : ∀ name ∈ query.names options, query.dialect.Unquoted name)
    (legible : ∀ value ∈ query.literals, value.isLegible = true) :
    compiled.parameters = (query.constants.mapIdx fun number value =>
        (Parameters.generatedName number, value)) ∧
      placeholdersIn query.dialect compiled.sql.toList =
        (List.range query.constants.length).map Parameters.generatedName := by
  obtain ⟨metadata, other, conditions, isMetadata, _, mentioned⟩ :=
    compile_mentions query.dialect.style accepted
  exact ⟨mentioned.entries, mentioned.placeholders fun mention member =>
    (mentioned.drawn isMetadata mention member).unquoted unquoted unquoted
      (fun value isMember => legible value (List.mem_append_left _ isMember))
      fun value isArgument => legible value (List.mem_append_right _ isArgument)⟩

/-- Two filters, one of which has a null test, on rows of a function whose argument looks
like a placeholder. -/
def recentAdults : Query :=
  ((((Query.start ⟨.sqlServer, .atSign⟩ (some Samples.person)).readFrom (.text "dbo.Recent")
    [.text "@p9"]).filter
      (.logical .conjunction (.test (.text "FirstName") .notEqual .null)
        (.test (.text "Age") .greaterOrEqual (.int 18)))).filter
      (.membership (.member (.text "LastName")) [.text "Hill", .text "@p0"])).orderBy
    (.text "Id") true

theorem recentAdults_sql :
    recentAdults.compile.toOption.map (·.sql) = some
      ("SELECT [Id], [FirstName], [LastName], [Age], [CreateDateUTC] " ++
        "FROM dbo.Recent('@p9') WHERE ([LastName] IN (@p0, @p1)) AND " ++
        "(([FirstName] IS NOT NULL) AND ([Age] >= @p2)) ORDER BY [Id] DESC") := by
  decide +kernel

theorem recentAdults_numbers_placeholders :
    ∃ compiled, recentAdults.compile = .ok compiled ∧
      compiled.parameters = [("p0", .text "Hill"), ("p1", .text "@p0"), ("p2", .int 18)] ∧
      placeholdersIn recentAdults.dialect compiled.sql.toList = ["p0", "p1", "p2"] := by
  have unquoted : ∀ name ∈ recentAdults.names {}, recentAdults.dialect.Unquoted name := by
    decide +kernel
  have legible : ∀ value ∈ recentAdults.literals, value.isLegible = true := by
    decide +kernel
  obtain ⟨compiled, accepted, _⟩ := Fault.ok_of_seen recentAdults_sql
  obtain ⟨parameters, placeholders⟩ :=
    compile_numbers_placeholders recentAdults {} compiled accepted unquoted legible
  exact ⟨compiled, accepted, parameters, placeholders⟩

end Query

end EntitySql
