import EntitySql.Proofs.Query.Meaning
import EntitySql.Proofs.Query.Placeholder
import EntitySql.Proofs.Sql.Qualifier

/-!
# Tables and qualifiers of queries

A query with joins lists the table of its own columns, or a function in its place, and
then the tables of its joins.  Its columns are qualified by these tables.  As a table is
always listed under its own name, a name stands for a single source exactly if no two
of the tables that are listed are rendered alike.
-/

namespace EntitySql

open Sql (Mention Composed Reads Reference Place WovenEach referencesIn tablesIn qualifiersIn
  clauses parts_clauses)

theorem Scope.mentionOf_cases {scope : Scope} {name : Value} {mention : Mention}
    (isMention : scope.mentionOf name = .ok mention) :
    (∃ column, mention = .column scope.qualifier column) ∨ ∃ other, mention = .unnamed other := by
  unfold mentionOf at isMention
  split at isMention
  · obtain ⟨column, _, rfl⟩ := mentionOf_text isMention
    exact .inl ⟨column, rfl⟩
  · split at isMention
    · cases isMention
      exact .inl ⟨_, rfl⟩
    · cases quoted : scope.dialect.identifierOf name with
      | error fault =>
          rw [quoted] at isMention
          cases isMention
      | ok identifier =>
          rw [quoted] at isMention
          cases isMention
          exact .inr ⟨name, rfl⟩

namespace Query

variable {query : Query} {options : Options} {compiled : Compiled} {metadata : Metadata}
variable {table : String} {texts : List String} {selection : Selection}
variable {conditions : List Mention} {mention : Mention}

/-- The table of the columns that are selected. -/
def base? (query : Query) (options : Options) : Option String :=
  query.metadata?.map fun metadata => options.tableOr metadata.tableName

/-- The tables that are joined, in the order of the calls. -/
def joinedTables (query : Query) : List String :=
  (QueryChain.joins query.chain.steps).filterMap fun call =>
    (call.1.bind (·.metadata.toOption)).map (·.tableName)

/-- The tables behind FROM and JOIN.  A function takes the place of the first one. -/
def sources (query : Query) (options : Options) : List String :=
  (if query.function?.isSome then [] else (query.base? options).toList) ++ query.joinedTables

/-- What a query mentions, with its members in place of its conditions. -/
def named (query : Query) (options : Options) : List Mention :=
  query.metadata?.elim [] fun metadata =>
    query.mentions metadata (options.tableOr metadata.tableName)
      (query.members.filterMap fun name =>
        ((query.scope metadata (options.tableOr metadata.tableName)).mentionOf name).toOption)

/-- A text lists its tables, and columns stand behind tables that are listed. -/
structure Qualifies (query : Query) (options : Options) (sql : String) (mentions : List Mention) :
    Prop where
  composed : Composed query.dialect sql mentions
  listed : mentions.filterMap (·.table?) = query.sources options
  rendered : ∀ mention ∈ mentions, ∀ owner ∈ mention.owner?,
    ∃ rest, mention.text query.dialect = query.dialect.tableText owner ++ "." ++ rest
  /-- Only keys of joins may stand behind a table whose place a function has taken. -/
  among : ∀ mention ∈ mentions, ∀ owner ∈ mention.owner?,
    owner ∈ query.sources options ∨
      query.function?.isSome ∧ owner ∈ query.base? options ∧ ∃ key, mention = .joined owner key
  /-- A rendering stands for a single table unless two tables are rendered alike. -/
  once : (∀ owner ∈ mentions.filterMap (·.owner?), owner ∈ query.sources options →
      ((query.sources options).map query.dialect.tableText).count (query.dialect.tableText owner) =
        1) ↔
    ((query.sources options).map query.dialect.tableText).Nodup
  /-- Tables and qualifiers can be read back from the text. -/
  read : (∀ mention ∈ query.named options, mention.Plain query.dialect) →
    tablesIn query.dialect sql = (query.sources options).map query.dialect.path ∧
      qualifiersIn query.dialect sql = (mentions.filterMap (·.owner?)).map query.dialect.path

/-- The conditions mention columns of members and parameters. -/
def Conditions (query : Query) (metadata : Metadata) (table : String) (conditions : List Mention) :
    Prop :=
  ∀ mention ∈ conditions,
    (∃ name, mention = .parameter name ∧ (Sql.Operand.parameter name).Readable) ∨
    ∃ name ∈ query.members, (query.scope metadata table).mentionOf name = .ok mention

namespace Conditions

variable (drawn : query.Conditions metadata table conditions)

include drawn in
theorem table?_eq_none : ∀ mention ∈ conditions, mention.table? = none := by
  intro mention member
  obtain ⟨name, rfl, _⟩ | ⟨name, _, isMention⟩ := drawn mention member
  · rfl
  · obtain ⟨column, rfl⟩ | ⟨other, rfl⟩ := Scope.mentionOf_cases isMention <;> rfl

include drawn in
theorem owner?_mem_qualifier : ∀ mention ∈ conditions, ∀ owner ∈ mention.owner?,
    owner ∈ query.qualifier table := by
  intro mention member owner isOwner
  obtain ⟨name, rfl, _⟩ | ⟨name, _, isMention⟩ := drawn mention member
  · cases isOwner
  · obtain ⟨column, rfl⟩ | ⟨other, rfl⟩ := Scope.mentionOf_cases isMention
    · exact (Option.filter_eq_some_iff.mp isOwner).1
    · cases isOwner

end Conditions

theorem conditions_of_rendered {style : PlaceholderStyle} {others names : List String}
    (each : (query.scope metadata table).MentionsEach style query.predicates texts others names
      conditions)
    (readable : ∀ name ∈ names, (Sql.Operand.parameter name).Readable) :
    query.Conditions metadata table conditions := by
  intro mention member
  cases isParameter : mention.parameter? with
  | none => exact .inr (each.columns mention member isParameter)
  | some name =>
      have listed : name ∈ names := by
        rw [← each.parameters]
        exact List.mem_filterMap.mpr ⟨mention, member, isParameter⟩
      cases mention with
      | parameter same =>
          cases isParameter
          exact .inl ⟨_, rfl, readable _ listed⟩
      | _ => cases isParameter

theorem readable_of_bound {names : List String} {parameters : Parameters}
    (bound : Parameters.bindEach query.constants {} = (.ok names, parameters)) :
    ∀ name ∈ names, (Sql.Operand.parameter name).Readable := by
  have numbered : Parameters.bindEach query.constants {} = _ :=
    Parameters.bindEach_numbered [] query.constants
  obtain ⟨rfl, _⟩ : _ = names ∧ _ = parameters := by
    simpa using numbered.symm.trans bound
  rw [List.forall_mem_map]
  exact fun number _ =>
    ⟨Parameters.generatedName_ne_empty number, Parameters.isWord_generatedName number⟩

/-! ## Joins -/

theorem joinMentions_eq {call : Option EntityType × Value × Value} {inner : Metadata}
    (known : call.1.bind (·.metadata.toOption) = some inner) :
    joinMentions table metadata call =
      [.table inner.tableName, .joined table (metadata.columnOf call.2.1).plainText,
        .joined inner.tableName (inner.columnOf call.2.2).plainText] := by
  rw [joinMentions, known]
  rfl

theorem tables_of_joins (query : Query) (metadata : Metadata) (table : String) :
    ((QueryChain.joins query.chain.steps).flatMap (joinMentions table metadata)).filterMap
      (·.table?) = query.joinedTables := by
  rw [List.filterMap_flatMap, joinedTables, List.filterMap_eq_flatMap_toList]
  refine List.flatMap_congr fun call _ => ?_
  unfold joinMentions
  cases call.1.bind (·.metadata.toOption) <;> rfl

/-- A join qualifies columns by the table of the query and its own. -/
theorem owners_of_join {call : Option EntityType × Value × Value}
    (member : call ∈ QueryChain.joins query.chain.steps) :
    ∀ mention ∈ joinMentions table metadata call, ∀ owner ∈ mention.owner?,
      owner ∈ query.joinedTables ∨ owner = table ∧ ∃ key, mention = .joined owner key := by
  cases known : call.1.bind (·.metadata.toOption) with
  | none => simp [joinMentions, known]
  | some inner =>
      rw [joinMentions_eq known]
      have listed : inner.tableName ∈ query.joinedTables :=
        List.mem_filterMap.mpr ⟨call, member, by simp [known]⟩
      simp only [List.forall_mem_cons, List.not_mem_nil, false_implies,
        implies_true, and_true, Mention.owner?, Option.mem_def, Option.some.injEq, reduceCtorEq,
        forall_eq']
      exact ⟨trivial, .inr ⟨trivial, _, rfl⟩, .inl listed⟩

theorem known_of_resolved {call : Option EntityType × Value × Value} {join : Join}
    (resolved : QueryChain.resolveJoin table metadata call = .ok join) :
    ∃ inner, call.1.bind (·.metadata.toOption) = some inner ∧ join = {
      table := inner.tableName
      leftColumn := table ++ "." ++ (metadata.columnOf call.2.1).plainText
      rightColumn := inner.tableName ++ "." ++ (inner.columnOf call.2.2).plainText } := by
  obtain ⟨type, inner, given, isMetadata, isJoin⟩ := QueryChain.resolveJoin_eq_ok.mp resolved
  exact ⟨inner, by simp [given, isMetadata, Except.toOption], isJoin⟩

theorem known_of_joined {joins : List Join} {calls : List (Option EntityType × Value × Value)}
    (resolved : List.Forall₂
      (fun call join => QueryChain.resolveJoin table metadata call = .ok join) calls joins) :
    ∀ call ∈ calls, ∃ inner, call.1.bind (·.metadata.toOption) = some inner := by
  induction resolved with
  | nil => simp
  | cons first _ ih =>
      obtain ⟨inner, known, _⟩ := known_of_resolved first
      exact List.forall_mem_cons.mpr ⟨⟨inner, known⟩, ih⟩

/-- From a table, or from a function if that is what is read from, the reader goes on to the
joined tables. -/
theorem joins_read {dialect : Dialect} {place : Place} {joins : List Join}
    {calls : List (Option EntityType × Value × Value)}
    (resolved : List.Forall₂
      (fun call join => QueryChain.resolveJoin table metadata call = .ok join) calls joins)
    (plain : ∀ mention ∈ calls.flatMap (joinMentions table metadata), mention.Plain dialect)
    (among : place = .tables [] ∧ joins ≠ [] ∨ place = .columns []) :
    Reads dialect place (.columns []) (clauses (joins.map dialect.joinClause))
      ((calls.flatMap (joinMentions table metadata)).flatMap (Mention.references dialect)) := by
  induction resolved generalizing place with
  | nil =>
      obtain rfl : place = .columns [] := by simpa using among
      exact Reads.nil dialect _
  | @cons call join calls joins first rest ih =>
      obtain ⟨firstPlain, restPlain⟩ := List.forall_mem_append.mp plain
      obtain ⟨inner, known, rfl⟩ := known_of_resolved first
      rw [joinMentions_eq known] at firstPlain
      rw [List.flatMap_cons, List.flatMap_append, joinMentions_eq known]
      exact (Reads.joinClause (among.imp_left And.left) firstPlain).append
        (ih restPlain (.inr rfl)) (parts_clauses _)

/-! ## What is listed, and what qualifies -/

section Compiled

variable (isMetadata : query.metadata? = some metadata)

include isMetadata in
theorem base?_eq (options : Options) :
    query.base? options = some (options.tableOr metadata.tableName) := by
  rw [base?, isMetadata]
  rfl

include isMetadata in
theorem tables_of_mentions
    (drawn : query.Conditions metadata (options.tableOr metadata.tableName) conditions) :
    (query.mentions metadata (options.tableOr metadata.tableName) conditions).filterMap
      (·.table?) = query.sources options := by
  have source : [query.function?.elim (Mention.table (options.tableOr metadata.tableName))
      .call].filterMap (·.table?) =
        if query.function?.isSome then [] else (query.base? options).toList := by
    rw [base?_eq isMetadata]
    cases query.function? <;> rfl
  have silent : conditions.filterMap (·.table?) = [] :=
    List.filterMap_eq_nil_iff.mpr drawn.table?_eq_none
  have columns {α : Type} (items : List α) (mention : α → Mention)
      (none : ∀ item, (mention item).table? = none) :
      (items.map mention).filterMap (·.table?) = [] := by
    simp [none]
  simp only [mentions, List.filterMap_append, tables_of_joins, silent, source, sources]
  rw [columns _ _ fun _ => rfl, columns _ _ fun _ => rfl]
  simp

variable (isFunction : query.function?.isSome = (QueryChain.functionCall query.chain.steps).isSome)

include isMetadata isFunction in
theorem qualifier_mem_sources :
    ∀ owner ∈ query.qualifier (options.tableOr metadata.tableName),
      owner ∈ query.sources options := by
  intro owner isOwner
  simp only [qualifier, ← isFunction, Option.mem_def, Bool.or_eq_true] at isOwner
  split at isOwner
  · cases isOwner
  · rename_i qualified
    cases isOwner
    simp only [not_or] at qualified
    simp [sources, qualified.2, base?_eq isMetadata]

include isMetadata isFunction in
/-- A column stands behind a table that is listed, except for keys of joins where a function
takes the place of that table. -/
theorem owners_of_mentions
    (drawn : query.Conditions metadata (options.tableOr metadata.tableName) conditions) :
    ∀ mention ∈ query.mentions metadata (options.tableOr metadata.tableName) conditions,
      ∀ owner ∈ mention.owner?, owner ∈ query.sources options ∨
        query.function?.isSome ∧ owner ∈ query.base? options ∧
          ∃ key, mention = .joined owner key := by
  have qualified (owner : String)
      (isOwner : owner ∈ (query.qualifier (options.tableOr metadata.tableName)).filter (· ≠ "")) :
      owner ∈ query.sources options :=
    qualifier_mem_sources isMetadata isFunction owner (Option.filter_eq_some_iff.mp isOwner).1
  simp only [mentions, List.forall_mem_append, List.forall_mem_map, List.forall_mem_flatMap,
    List.forall_mem_singleton]
  refine ⟨⟨⟨⟨fun column _ owner isOwner => .inl (qualified owner isOwner), ?_⟩, ?_⟩, ?_⟩,
    fun column _ owner isOwner => .inl (qualified owner isOwner)⟩
  · cases query.function? <;> exact fun owner isOwner => by cases isOwner
  · intro call member mention isMention owner isOwner
    rcases owners_of_join member mention isMention owner isOwner with isJoined | ⟨rfl, isKey⟩
    · exact .inl (List.mem_append_right _ isJoined)
    · cases read : query.function?.isSome with
      | true => exact .inr ⟨rfl, base?_eq isMetadata options, isKey⟩
      | false =>
          left
          simp [sources, read, base?_eq isMetadata]
  · exact fun mention member owner isOwner => .inl <|
      qualifier_mem_sources isMetadata isFunction owner
        (drawn.owner?_mem_qualifier mention member owner isOwner)

theorem owner_of_join {call : Option EntityType × Value × Value} {owner key : String}
    (member : call ∈ QueryChain.joins query.chain.steps)
    (isKey : Mention.joined owner key ∈ joinMentions table metadata call) :
    owner ∈ (query.mentions metadata table conditions).filterMap (·.owner?) := by
  refine List.mem_filterMap.mpr ⟨.joined owner key, ?_, rfl⟩
  simp only [mentions, List.mem_append]
  exact .inl (.inl (.inr (List.mem_flatMap.mpr ⟨call, member, isKey⟩)))

section Joined

variable {joins : List Join} (resolved : List.Forall₂ (fun call join => QueryChain.resolveJoin
    (options.tableOr metadata.tableName) metadata call = .ok join)
  (QueryChain.joins query.chain.steps) joins)

include isMetadata resolved in
/-- The table of the query qualifies a key of each join, whether it is listed or not. -/
theorem base_mem_owners (joined : QueryChain.joins query.chain.steps ≠ []) :
    ∀ base ∈ query.base? options, base ∈
      (query.mentions metadata (options.tableOr metadata.tableName) conditions).filterMap
        (·.owner?) := by
  intro base isBase
  rw [base?_eq isMetadata] at isBase
  cases isBase
  obtain ⟨call, others, starts⟩ := List.exists_cons_of_ne_nil joined
  have member : call ∈ QueryChain.joins query.chain.steps := by simp [starts]
  obtain ⟨inner, isInner⟩ := known_of_joined resolved call member
  have isKey : Mention.joined (options.tableOr metadata.tableName)
      (metadata.columnOf call.2.1).plainText ∈
        joinMentions (options.tableOr metadata.tableName) metadata call := by
    simp [joinMentions_eq isInner]
  exact owner_of_join member isKey

include isMetadata resolved in
/-- Each table that is listed qualifies a key of a join. -/
theorem sources_subset_owners (joined : QueryChain.joins query.chain.steps ≠ []) :
    ∀ table ∈ query.sources options, table ∈
      (query.mentions metadata (options.tableOr metadata.tableName) conditions).filterMap
        (·.owner?) := by
  intro table listed
  rcases List.mem_append.mp listed with isBase | isJoined
  · split at isBase
    · cases isBase
    · exact base_mem_owners isMetadata resolved joined table (Option.mem_toList.mp isBase)
  · obtain ⟨call, member, named⟩ := List.mem_filterMap.mp isJoined
    obtain ⟨inner, isInner, rfl⟩ := Option.map_eq_some_iff.mp named
    have isKey : Mention.joined inner.tableName (inner.columnOf call.2.2).plainText ∈
        joinMentions (options.tableOr metadata.tableName) metadata call := by
      simp [joinMentions_eq isInner]
    exact owner_of_join member isKey

end Joined

/-- Tables that are all used stand for a single source each exactly if no two of them are
rendered alike. -/
theorem count_eq_one_iff {tables owners : List String} (render : String → String)
    (used : ∀ table ∈ tables, table ∈ owners) :
    (∀ owner ∈ owners, owner ∈ tables → (tables.map render).count (render owner) = 1) ↔
      (tables.map render).Nodup := by
  rw [List.nodup_iff_count_eq_one, List.forall_mem_map]
  exact ⟨fun each table listed => each table (used table listed) listed,
    fun each owner _ listed => each owner listed⟩

/-! ## The text -/

section Text

variable {sql : String} (isMetadata : query.metadata? = some metadata)

include isMetadata in
theorem plain_of_named
    (drawn : query.Conditions metadata (options.tableOr metadata.tableName) conditions)
    (plain : ∀ mention ∈ query.named options, mention.Plain query.dialect) :
    ∀ mention ∈ query.mentions metadata (options.tableOr metadata.tableName) conditions,
      mention.Plain query.dialect := by
  rw [named, isMetadata, Option.elim_some] at plain
  simp only [mentions, List.forall_mem_append] at plain ⊢
  obtain ⟨⟨⟨entriesAndSource, joins⟩, members⟩, orderings⟩ := plain
  refine ⟨⟨⟨entriesAndSource, joins⟩, fun mention member => ?_⟩, orderings⟩
  obtain ⟨name, rfl, _⟩ | ⟨name, isMember, isMention⟩ := drawn mention member
  · exact trivial
  · exact members mention (List.mem_filterMap.mpr ⟨name, isMember, by
      rw [isMention]
      rfl⟩)

/-- What the conditions of a query mention can be read behind the tables. -/
theorem Conditions.reads (drawn : query.Conditions metadata table conditions)
    (plain : ∀ mention ∈ conditions, mention.Plain query.dialect) :
    ∀ mention ∈ conditions, Reads query.dialect .behind .behind (mention.text query.dialect).toList
      (mention.references query.dialect) := by
  intro mention member
  have isPlain := plain mention member
  obtain ⟨name, rfl, readable⟩ | ⟨name, _, isMention⟩ := drawn mention member
  · exact .parameter readable
  · obtain ⟨column, rfl⟩ | ⟨other, rfl⟩ := Scope.mentionOf_cases isMention
    · exact .column (.inr rfl) isPlain
    · exact isPlain.elim

/-- From FROM on the reader goes on to the joins. -/
theorem Selects.source_reads (selects : query.Selects metadata table texts selection)
    {source : String} (written : query.dialect.sourceText selection.source = .ok source)
    (plain : (query.function?.elim (Mention.table table) .call).Plain query.dialect) :
    ∃ reached, (reached = .tables [] ∨ reached = .columns []) ∧ ∀ rest,
      referencesIn query.dialect (.tables []) (source.toList ++ ' ' :: rest) =
        (query.function?.elim (Mention.table table) .call).references query.dialect ++
          referencesIn query.dialect reached (' ' :: rest) := by
  rw [selects.source] at written
  cases isFunction : query.function? with
  | none =>
      rw [isFunction] at written plain
      cases written
      have tablePlain : query.dialect.PlainTable table := plain
      refine ⟨.tables [], .inl rfl, fun rest => ?_⟩
      rw [Dialect.tableText_eq tablePlain]
      exact Sql.referencesIn_path (query.dialect.path_ne_nil table) Sql.parts_blank
  | some function =>
      rw [isFunction] at written plain
      have called : query.dialect.functionCall function = .ok source := written
      have tablesAhead : Place.tables [] ≠ .behind := nofun
      refine ⟨.columns [], .inr rfl, fun rest => ?_⟩
      have blank : Sql.referencesIn query.dialect (.columns []) (" ".toList ++ rest) =
          Sql.referencesIn query.dialect (.columns []) rest := Sql.referencesIn_words (by decide)
      rw [Sql.referencesIn_call called plain tablesAhead, ← blank]
      rfl

/-- The text of a query refers to what it mentions. -/
theorem Selects.referencesIn {style : PlaceholderStyle} {others : List String}
    (selects : query.Selects metadata table texts selection)
    (joined : QueryChain.joins query.chain.steps ≠ [])
    (each : WovenEach query.dialect style texts others conditions)
    (nonempty : (∀ text ∈ texts, text ≠ "") ∧ ∀ text ∈ others, text ≠ "")
    (drawn : query.Conditions metadata table conditions)
    (plain : ∀ mention ∈ query.mentions metadata table conditions, mention.Plain query.dialect)
    (written : query.dialect.writeSelect selection = .ok sql) :
    Sql.referencesIn query.dialect (.columns []) sql.toList =
      (query.mentions metadata table conditions).flatMap (Mention.references query.dialect) := by
  obtain ⟨source, isSource, rfl⟩ := writeSelect_eq_ok written
  have parts := QueryChain.conditionParts_conjoin each nonempty
  rw [← selects.condition] at parts
  rw [mentions, selects.entries_eq, selects.orderings_eq] at plain ⊢
  simp only [List.forall_mem_append, List.forall_mem_singleton, List.forall_mem_map] at plain
  obtain ⟨⟨⟨⟨entriesPlain, sourcePlain⟩, joinsPlain⟩, conditionsPlain⟩, orderingsPlain⟩ := plain
  obtain ⟨reached, among, sourceReads⟩ := selects.source_reads isSource sourcePlain
  have given : selection.joins ≠ [] := by
    have sameLength := selects.joins.length_eq
    rw [← List.length_pos_iff] at joined ⊢
    omega
  have joinsRead := joins_read selects.joins joinsPlain
    (among.imp_left fun isTables => ⟨isTables, given⟩)
  rw [Dialect.referencesIn_selectFrom entriesPlain sourceReads given joinsRead parts
    (drawn.reads conditionsPlain) orderingsPlain]
  simp

end Text

end Compiled

/-- What stands behind the text of a query with joins. -/
structure JoinText (query : Query) (options : Options) (sql : String) (metadata : Metadata)
    (conditions : List Mention) : Prop where
  isMetadata : query.metadata? = some metadata
  isFunction : query.function?.isSome = (QueryChain.functionCall query.chain.steps).isSome
  drawn : query.Conditions metadata (options.tableOr metadata.tableName) conditions
  joins : ∃ joins, List.Forall₂ (fun call join => QueryChain.resolveJoin
      (options.tableOr metadata.tableName) metadata call = .ok join)
    (QueryChain.joins query.chain.steps) joins
  composed : Composed query.dialect sql
    (query.mentions metadata (options.tableOr metadata.tableName) conditions)
  read : (∀ mention ∈ query.mentions metadata (options.tableOr metadata.tableName) conditions,
      mention.Plain query.dialect) →
    referencesIn query.dialect (.columns []) sql.toList =
      (query.mentions metadata (options.tableOr metadata.tableName) conditions).flatMap
        (Mention.references query.dialect)

theorem joinText_of_compile (accepted : query.compile options = .ok compiled)
    (joined : QueryChain.joins query.chain.steps ≠ []) :
    ∃ metadata conditions, query.JoinText options compiled.sql metadata conditions := by
  obtain ⟨selection, parameters, sql, ran, written, rfl⟩ := compile_eq_ok accepted
  obtain ⟨metadata, texts, isMetadata, rendered, selects, _⟩ := selection_selects ran
  obtain ⟨others, names, conditions, _, bound, each⟩ :=
    Scope.renderAll_gives query.dialect.style _ rendered
  have drawn := conditions_of_rendered each (readable_of_bound bound)
  obtain ⟨_, _, woven⟩ := selects.woven each.woven each.nonempty written
  exact ⟨metadata, conditions, {
    isMetadata
    isFunction := selects.isFunction
    drawn
    joins := ⟨_, selects.joins⟩
    composed := woven.composed
    read := fun plain => selects.referencesIn joined each.woven each.nonempty drawn plain written }⟩

namespace JoinText

variable {sql : String} (written : query.JoinText options sql metadata conditions)

include written in
/-- Where names are plain, the tables and the qualifiers can be read back from the text. -/
theorem tables_and_qualifiers
    (plain : ∀ mention ∈ query.named options, mention.Plain query.dialect) :
    tablesIn query.dialect sql = (query.sources options).map query.dialect.path ∧
      qualifiersIn query.dialect sql =
        ((query.mentions metadata (options.tableOr metadata.tableName) conditions).filterMap
          (·.owner?)).map query.dialect.path := by
  have allPlain := plain_of_named written.isMetadata written.drawn plain
  rw [← tables_of_mentions written.isMetadata written.drawn]
  exact Sql.tables_and_qualifiers allPlain (written.read allPlain)

include written in
/-- The table of a query is among the qualifiers, however often it is listed. -/
theorem base_counted (joined : QueryChain.joins query.chain.steps ≠ [])
    (plain : ∀ mention ∈ query.named options, mention.Plain query.dialect) :
    ∀ base ∈ query.base? options, query.dialect.path base ∈ qualifiersIn query.dialect sql ∧
      (tablesIn query.dialect sql).count (query.dialect.path base) =
        ((query.sources options).map query.dialect.path).count (query.dialect.path base) := by
  intro base isBase
  obtain ⟨_, resolved⟩ := written.joins
  obtain ⟨tables, qualifiers⟩ := written.tables_and_qualifiers plain
  rw [tables, qualifiers]
  exact ⟨List.mem_map_of_mem (base_mem_owners written.isMetadata resolved joined base isBase), rfl⟩

end JoinText

/-- A query with joins that compiles lists its tables and qualifies its columns by them.  That it
is read back so from the text asks for names that are plain. -/
theorem compile_qualifies (accepted : query.compile options = .ok compiled)
    (joined : QueryChain.joins query.chain.steps ≠ []) :
    ∃ metadata conditions, query.metadata? = some metadata ∧
      query.Qualifies options compiled.sql
        (query.mentions metadata (options.tableOr metadata.tableName) conditions) := by
  obtain ⟨metadata, conditions, written⟩ := joinText_of_compile accepted joined
  obtain ⟨_, resolved⟩ := written.joins
  exact ⟨metadata, conditions, written.isMetadata, {
    composed := written.composed
    listed := tables_of_mentions written.isMetadata written.drawn
    rendered := fun mention _ owner isOwner => Mention.text_of_owner? query.dialect isOwner
    among := owners_of_mentions written.isMetadata written.isFunction written.drawn
    once := count_eq_one_iff _ (sources_subset_owners written.isMetadata resolved joined)
    read := written.tables_and_qualifiers }⟩

/-- Widgets from a table in a schema, with orders of the same number. -/
def orderedWidgets : Query :=
  (((Query.start ⟨.sqlServer, .atSign⟩ (some Samples.widget)).join (some Samples.order)
    (.text "Id") (.text "OrderId")).filter
      (.test (.text "DisplayName") .equal (.text "lamp"))).orderBy (.text "Price")

theorem orderedWidgets_qualify :
    ∃ compiled, orderedWidgets.compile = .ok compiled ∧
      tablesIn orderedWidgets.dialect compiled.sql = [["dbo", "Widgets"], ["Orders"]] ∧
      ∀ qualifier ∈ qualifiersIn orderedWidgets.dialect compiled.sql,
        qualifier ∈ [["dbo", "Widgets"], ["Orders"]] := by
  have seen : orderedWidgets.compile.toOption.map (·.parameters.length) = some 1 := by
    decide +kernel
  obtain ⟨compiled, accepted, _⟩ := Fault.ok_of_seen seen
  have joined : QueryChain.joins orderedWidgets.chain.steps ≠ [] := List.cons_ne_nil _ _
  have plain : ∀ mention ∈ orderedWidgets.named {}, mention.Plain orderedWidgets.dialect := by
    decide +kernel
  have tables_eq : orderedWidgets.sources {} = ["dbo.Widgets", "Orders"] := by decide +kernel
  have paths : ["dbo.Widgets", "Orders"].map orderedWidgets.dialect.path =
      [["dbo", "Widgets"], ["Orders"]] := by decide +kernel
  obtain ⟨_, _, _, qualifies⟩ := compile_qualifies accepted joined
  obtain ⟨tables, qualifiers⟩ := qualifies.read plain
  rw [tables_eq, paths] at tables
  refine ⟨compiled, accepted, tables, fun qualifier member => ?_⟩
  rw [qualifiers] at member
  obtain ⟨owner, isOwner, rfl⟩ := List.mem_map.mp member
  obtain ⟨mention, isMention, owned⟩ := List.mem_filterMap.mp isOwner
  rw [← paths, ← tables_eq]
  rcases qualifies.among mention isMention owner owned with listed | ⟨isFunction, _⟩
  · exact List.mem_map_of_mem listed
  · cases isFunction

/-- Audit entries of the same level. -/
def sameLevel : Query :=
  (Query.start ⟨.sqlite, .colon⟩ (some Samples.auditEntry)).join (some Samples.auditEntry)
    (.text "Level") (.text "Level")

/-- Orders that a function gives, with the persons who placed them. -/
def recentOrders : Query :=
  ((Query.start ⟨.sqlite, .colon⟩ (some Samples.order)).join (some Samples.person)
    (.text "PersonId") (.text "Id")).readFrom (.text "recent_orders") [.int 30]

/-- A table that is joined with itself is listed twice, and one whose place a function takes is
not listed, although columns stand behind it. -/
theorem qualifier_without_single_source :
    (∃ compiled, sameLevel.compile = .ok compiled ∧
      ["AuditEntry"] ∈ qualifiersIn sameLevel.dialect compiled.sql ∧
      (tablesIn sameLevel.dialect compiled.sql).count ["AuditEntry"] = 2) ∧
    ∃ compiled, recentOrders.compile = .ok compiled ∧
      ["Orders"] ∈ qualifiersIn recentOrders.dialect compiled.sql ∧
      (tablesIn recentOrders.dialect compiled.sql).count ["Orders"] = 0 := by
  have compiles : sameLevel.compile.toOption.map (·.parameters.length) = some 0 ∧
      recentOrders.compile.toOption.map (·.parameters.length) = some 0 := by decide +kernel
  have matchedPlain : ∀ mention ∈ sameLevel.named {}, mention.Plain sameLevel.dialect := by
    decide +kernel
  have placedPlain : ∀ mention ∈ recentOrders.named {}, mention.Plain recentOrders.dialect := by
    decide +kernel
  have bases : sameLevel.base? {} = some "AuditEntry" ∧ recentOrders.base? {} = some "Orders" := by
    decide +kernel
  have listed : (sameLevel.sources {}).map sameLevel.dialect.path =
        [["AuditEntry"], ["AuditEntry"]] ∧
      (recentOrders.sources {}).map recentOrders.dialect.path = [["Person"]] := by
    decide +kernel
  have paths : sameLevel.dialect.path "AuditEntry" = ["AuditEntry"] ∧
      recentOrders.dialect.path "Orders" = ["Orders"] := by decide +kernel
  obtain ⟨matched, isMatched, _⟩ := Fault.ok_of_seen compiles.1
  obtain ⟨placed, isPlaced, _⟩ := Fault.ok_of_seen compiles.2
  refine ⟨⟨matched, isMatched, ?_⟩, placed, isPlaced, ?_⟩
  · have joined : QueryChain.joins sameLevel.chain.steps ≠ [] := List.cons_ne_nil _ _
    obtain ⟨_, _, written⟩ := joinText_of_compile isMatched joined
    have counted := written.base_counted joined matchedPlain _ bases.1
    rwa [paths.1, listed.1] at counted
  · have joined : QueryChain.joins recentOrders.chain.steps ≠ [] := List.cons_ne_nil _ _
    obtain ⟨_, _, written⟩ := joinText_of_compile isPlaced joined
    have counted := written.base_counted joined placedPlain _ bases.2
    rwa [paths.2, listed.2] at counted

end Query

end EntitySql
