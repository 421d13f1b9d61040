import EntitySql.Proofs.Predicate.Mention
import EntitySql.Proofs.Query.Walk

/-!
# What queries mention

A SELECT mentions the columns of its entity type, its table or function, the tables and
keys of its joins, what its filters mention from the latest to the first, and the
columns it is ordered by.  The constants of the filters are bound in that order.
-/

namespace EntitySql

open Sql (Mention Separated Woven WovenEach Begins)

/-- Items that are all accepted, with what each of them gives. -/
theorem forall₂_of_mapM {α β : Type} {step : α → Except Fault β} {items : List α} {given : List β}
    (accepted : items.mapM step = .ok given) :
    List.Forall₂ (fun item value => step item = .ok value) items given := by
  induction items generalizing given with
  | nil =>
      cases accepted
      exact .nil
  | cons item rest ih =>
      rw [List.mapM_cons] at accepted
      obtain ⟨value, first, accepted⟩ := Fault.bind_eq_ok.mp accepted
      obtain ⟨values, later, answered⟩ := Fault.bind_eq_ok.mp accepted
      cases answered
      exact .cons first (ih later)

theorem forall_of_mapM {α β : Type} {step : α → Except Fault β} {items : List α} {given : List β}
    {holds : β → Prop} (accepted : items.mapM step = .ok given)
    (each : ∀ item ∈ items, ∀ value, step item = .ok value → holds value) :
    ∀ value ∈ given, holds value := by
  have all := forall₂_of_mapM accepted
  clear accepted
  induction all with
  | nil => simp
  | cons first rest ih =>
      obtain ⟨firstEach, restEach⟩ := List.forall_mem_cons.mp each
      exact List.forall_mem_cons.mpr ⟨firstEach _ first, ih restEach⟩

namespace Scope

variable {scope : Scope} {predicates : List Predicate} {parameters reached : Parameters}
variable {texts : List String}

/-- The texts of conditions, like their counterparts in another style, are woven from the
columns of their members and from parameters. -/
structure MentionsEach (scope : Scope) (style : PlaceholderStyle) (predicates : List Predicate)
    (texts others names : List String) (mentions : List Mention) : Prop where
  woven : WovenEach scope.dialect style texts others mentions
  nonempty : (∀ text ∈ texts, text ≠ "") ∧ ∀ text ∈ others, text ≠ ""
  parameters : mentions.filterMap (·.parameter?) = names
  columns : ∀ mention ∈ mentions, mention.parameter? = none →
    ∃ name ∈ predicates.flatMap Predicate.members, scope.mentionOf name = .ok mention
  resolved : ∀ name ∈ predicates.flatMap Predicate.members,
    ∃ mention, scope.mentionOf name = .ok mention

theorem MentionsEach.nil (style : PlaceholderStyle) : scope.MentionsEach style [] [] [] [] [] where
  woven := .nil
  nonempty := by simp
  parameters := rfl
  columns := by simp
  resolved := by simp

theorem MentionsEach.cons {style : PlaceholderStyle} {predicate tree : Predicate}
    {rest : List Predicate} {text other : String} {others names otherNames : List String}
    {mentions more : List Mention} (members : predicate.members = tree.memberNames)
    (first : scope.Mentions style tree text other names mentions)
    (later : scope.MentionsEach style rest texts others otherNames more) :
    scope.MentionsEach style (predicate :: rest) (text :: texts) (other :: others)
      (names ++ otherNames) (mentions ++ more) where
  woven := .cons first.woven later.woven
  nonempty := by
    simp only [List.forall_mem_cons]
    exact ⟨⟨first.nonempty.1, later.nonempty.1⟩, first.nonempty.2, later.nonempty.2⟩
  parameters := by rw [List.filterMap_append, first.parameters, later.parameters]
  columns mention member noParameter := by
    rcases List.mem_append.mp member with isFirst | isLater
    · obtain ⟨name, isMember, isMention⟩ := first.columns mention isFirst noParameter
      exact ⟨name, List.mem_append_left _ (members ▸ isMember), isMention⟩
    · obtain ⟨name, isMember, isMention⟩ := later.columns mention isLater noParameter
      exact ⟨name, List.mem_append_right _ isMember, isMention⟩
  resolved name isMember := by
    rcases List.mem_append.mp isMember with isFirst | isLater
    · exact first.resolved name (members ▸ isFirst)
    · exact later.resolved name isLater

theorem renderAll_gives (style : PlaceholderStyle) (predicates : List Predicate)
    (ran : QueryChain.renderAll scope predicates parameters = (.ok texts, reached)) :
    ∃ others names mentions,
      QueryChain.renderAll (scope.inStyle style) predicates parameters = (.ok others, reached) ∧
      Parameters.bindEach (predicates.flatMap Predicate.constants) parameters =
        (.ok names, reached) ∧
      scope.MentionsEach style predicates texts others names mentions := by
  induction predicates generalizing parameters texts with
  | nil =>
      obtain ⟨rfl, rfl⟩ := Action.answer_eq_ok.mp ran
      exact ⟨[], [], [], rfl, rfl, .nil style⟩
  | cons predicate rest ih =>
      obtain ⟨text, middle, textRan, ran⟩ := Action.bind_eq_ok.mp ran
      obtain ⟨restTexts, last, restRan, ran⟩ := Action.bind_eq_ok.mp ran
      obtain ⟨rfl, rfl⟩ := Action.answer_eq_ok.mp ran
      obtain ⟨tree, expands, constants, other, names, mentions, again, bound, first⟩ :=
        render_gives style predicate textRan
      obtain ⟨others, otherNames, more, restAgain, otherBound, later⟩ := ih restRan
      have members : predicate.members = tree.memberNames := by
        simp [Predicate.members, expands, Except.toOption]
      rw [constants] at bound
      exact ⟨other :: others, names ++ otherNames, mentions ++ more,
        Action.bind_eq_ok.mpr ⟨_, _, again, Action.bind_eq_ok.mpr ⟨_, _, restAgain, rfl⟩⟩,
        Parameters.bindEach_append bound otherBound, .cons members first later⟩

end Scope

namespace QueryChain

variable {dialect : Dialect} {style : PlaceholderStyle} {texts others : List String}
variable {mentions : List Mention}

/-- Conditions that are joined, if there are any. -/
theorem conjoin_woven (woven : WovenEach dialect style texts others mentions)
    (nonempty : (∀ text ∈ texts, text ≠ "") ∧ ∀ text ∈ others, text ≠ "") (given : texts ≠ []) :
    ∃ condition other, conjoin texts = some condition ∧ conjoin others = some other ∧
      Woven dialect style condition other mentions ∧ condition ≠ "" ∧ other ≠ "" := by
  induction woven with
  | nil => exact absurd rfl given
  | @cons text other texts others mentions more first rest ih =>
      simp only [List.forall_mem_cons] at nonempty
      cases rest with
      | nil => exact ⟨text, other, rfl, rfl, by simpa using first, nonempty.1.1, nonempty.2.1⟩
      | cons next rest =>
          obtain ⟨condition, later, conjoined, otherConjoined, woven, _⟩ :=
            ih ⟨nonempty.1.2, nonempty.2.2⟩ (List.cons_ne_nil _ _)
          have between : ") AND (".toList.all Sql.isWording = true := by decide
          have joined := first.bracketed woven between (by decide) (by decide)
          refine ⟨_, _, by rw [conjoin, conjoined], by rw [conjoin, otherConjoined], ?_, by simp,
            by simp⟩
          simpa [String.append_assoc] using joined

/-- The clause for joined conditions mentions what each of them mentions. -/
theorem conditionParts_conjoin (woven : WovenEach dialect style texts others mentions)
    (nonempty : (∀ text ∈ texts, text ≠ "") ∧ ∀ text ∈ others, text ≠ "") :
    WovenEach dialect style (Dialect.conditionParts (conjoin texts))
      (Dialect.conditionParts (conjoin others)) mentions := by
  by_cases given : texts = []
  · subst given
    cases woven
    exact .nil
  · obtain ⟨condition, other, conjoined, otherConjoined, woven, given⟩ :=
      conjoin_woven woven nonempty given
    rw [conjoined, otherConjoined]
    exact Dialect.conditionParts_woven woven given

end QueryChain

/-! ## Compiled queries -/

namespace Query

/-- The metadata of the type whose columns are selected. -/
def metadata? (query : Query) : Option Metadata :=
  (query.chain.selectedType query.entity).bind (·.metadata.toOption)

/-- The table that columns stand behind: joins make bare names ambiguous. -/
def qualifier (query : Query) (table : String) : Option String :=
  if (QueryChain.joins query.chain.steps).isEmpty ||
      (QueryChain.functionCall query.chain.steps).isSome then none
  else some table

/-- What the filters of a query are rendered in. -/
def scope (query : Query) (metadata : Metadata) (table : String) : Scope where
  dialect := query.dialect
  metadata := some metadata
  qualifier := query.qualifier table

/-- The filters, latest first. -/
def predicates (query : Query) : List Predicate :=
  (QueryChain.filters query.chain.steps).map (·.1)

/-- The constants that are bound to parameters: from the latest filter to the first, and
from left to right in each of them. -/
def constants (query : Query) : List Value := query.predicates.flatMap Predicate.constants

/-- The members that the filters name. -/
def members (query : Query) : List Value := query.predicates.flatMap Predicate.members

/-- The function that is read from, if there is one. -/
def function? (query : Query) : Option TableFunction :=
  (QueryChain.tableFunction query.chain.steps).toOption.join

/-- What a join mentions, if its type is known. -/
def joinMentions (table : String) (metadata : Metadata)
    (step : Option EntityType × Value × Value) : List Mention :=
  (step.1.bind (·.metadata.toOption)).elim [] fun inner =>
    [.table inner.tableName, .joined table (metadata.columnOf step.2.1).plainText,
      .joined inner.tableName (inner.columnOf step.2.2).plainText]

/-- The columns that rows are ordered by. -/
def sortColumns (query : Query) (metadata : Metadata) : List String :=
  (QueryChain.orderings query.chain.steps).filterMap fun ordering =>
    (QueryChain.sortTerm metadata ordering).toOption.map (·.column)

/-- What a query mentions, given what its filters mention. -/
def mentions (query : Query) (metadata : Metadata) (table : String)
    (conditions : List Mention) : List Mention :=
  metadata.mappedColumns.map (fun column => .entry (query.qualifier table) column.columnName) ++
    [query.function?.elim (.table table) .call] ++
    (QueryChain.joins query.chain.steps).flatMap (joinMentions table metadata) ++ conditions ++
    (query.sortColumns metadata).map (.column (query.qualifier table))

/-- The same query with placeholders in another style. -/
def inStyle (query : Query) (style : PlaceholderStyle) : Query :=
  { query with dialect := query.dialect.inStyle style }

/-- The text of a query, like its counterpart in another style, is woven from what it
mentions, and its parameters are the numbered constants of its filters. -/
structure Mentions (query : Query) (style : PlaceholderStyle) (metadata : Metadata)
    (table : String) (compiled : Compiled) (other : String) (conditions : List Mention) :
    Prop where
  begins : Begins compiled.sql
  woven : Woven query.dialect style compiled.sql other (query.mentions metadata table conditions)
  entries : compiled.parameters = (Parameters.numbered query.constants).entries
  parameters : conditions.filterMap (·.parameter?) =
    (List.range query.constants.length).map Parameters.generatedName
  columns : ∀ mention ∈ conditions, mention.parameter? = none →
    ∃ name ∈ query.members, (query.scope metadata table).mentionOf name = .ok mention
  resolved : ∀ name ∈ query.members,
    ∃ mention, (query.scope metadata table).mentionOf name = .ok mention
  called : ∀ function ∈ query.function?, Dialect.isFunctionName function.name = true

variable {query : Query} {options : Options} {compiled : Compiled} {metadata : Metadata}
variable {table : String} {style : PlaceholderStyle}

theorem compile_eq_ok (accepted : query.compile options = .ok compiled) :
    ∃ selection parameters sql,
      query.chain.selection query.dialect query.entity options {} = (.ok selection, parameters) ∧
      query.dialect.writeSelect selection = .ok sql ∧
      compiled = { sql, parameters := parameters.entries, dialect := query.dialect.name } := by
  obtain ⟨⟨selection, parameters⟩, selected, accepted⟩ := Fault.bind_eq_ok.mp accepted
  obtain ⟨sql, written, answered⟩ := Fault.bind_eq_ok.mp accepted
  cases answered
  unfold Query.selection at selected
  split at selected
  · rename_i ran
    cases selected
    exact ⟨selection, parameters, sql, ran, written, rfl⟩
  · cases selected

theorem compile_of_selection (query : Query) {selection : Selection} {parameters : Parameters}
    {sql : String}
    (selected : query.chain.selection query.dialect query.entity options {} =
      (.ok selection, parameters))
    (written : query.dialect.writeSelect selection = .ok sql) :
    query.compile options =
      .ok { sql, parameters := parameters.entries, dialect := query.dialect.name } := by
  have selects : query.selection options = .ok (selection, parameters) := by
    simp only [Query.selection, selected]
  exact Fault.bind_eq_ok.mpr ⟨_, selects, Fault.bind_eq_ok.mpr ⟨_, written, rfl⟩⟩

theorem isSome_functionCall {steps : List QueryStep} {function : Option TableFunction}
    (isFunction : QueryChain.tableFunction steps = .ok function) :
    (QueryChain.functionCall steps).isSome = function.isSome := by
  unfold QueryChain.tableFunction at isFunction
  split at isFunction
  · rename_i notCalled
    cases isFunction
    simp [notCalled]
  · rename_i called
    generalize (TableFunction.ofFields _).toExcept = read at isFunction
    cases read with
    | error fault => cases isFunction
    | ok source =>
        cases isFunction
        simp [called]

theorem joinClause_of_resolveJoin {step : Option EntityType × Value × Value} {join : Join}
    (resolved : QueryChain.resolveJoin table metadata step = .ok join) (dialect : Dialect) :
    Woven dialect style (dialect.joinClause join) ((dialect.inStyle style).joinClause join)
      (joinMentions table metadata step) := by
  obtain ⟨inner, outerKey, innerKey⟩ := step
  cases inner with
  | none => cases resolved
  | some type =>
      obtain ⟨_, isGiven, resolved⟩ := Fault.bind_eq_ok.mp resolved
      cases isGiven
      obtain ⟨innerMetadata, isMetadata, resolved⟩ := Fault.bind_eq_ok.mp resolved
      cases resolved
      simpa [joinMentions, isMetadata, Except.toOption] using
        Dialect.joinClause_woven innerMetadata.tableName table
          (metadata.columnOf outerKey).plainText innerMetadata.tableName
          (innerMetadata.columnOf innerKey).plainText

theorem sortColumns_eq {orderings : List (Value × Bool)} {terms : List SortTerm}
    (accepted : List.Forall₂ (fun ordering term => QueryChain.sortTerm metadata ordering = .ok term)
      orderings terms) :
    (orderings.filterMap fun ordering =>
      (QueryChain.sortTerm metadata ordering).toOption.map (·.column)) = terms.map (·.column) := by
  induction accepted with
  | nil => rfl
  | cons first rest ih =>
      rw [List.filterMap_cons, first]
      simpa [Except.toOption] using ih

theorem writeSelect_eq_ok {dialect : Dialect} {selection : Selection} {sql : String}
    (written : dialect.writeSelect selection = .ok sql) :
    ∃ source, dialect.sourceText selection.source = .ok source ∧
      sql = dialect.selectFrom selection source := by
  obtain ⟨source, read, written⟩ := Fault.bind_eq_ok.mp written
  cases written
  exact ⟨source, read, rfl⟩

/-- A selection has the parts that the calls of a query describe. -/
structure Selects (query : Query) (metadata : Metadata) (table : String) (texts : List String)
    (selection : Selection) : Prop where
  source : selection.source = query.function?.elim (.table table) .function
  columns : selection.columns = metadata.mappedColumns.map (·.columnName)
  condition : selection.condition = QueryChain.conjoin texts
  joins : List.Forall₂ (fun step join => QueryChain.resolveJoin table metadata step = .ok join)
    (QueryChain.joins query.chain.steps) selection.joins
  orderBy : List.Forall₂ (fun ordering term => QueryChain.sortTerm metadata ordering = .ok term)
    (QueryChain.orderings query.chain.steps) selection.orderBy
  isFunction : query.function?.isSome = (QueryChain.functionCall query.chain.steps).isSome

variable {selection : Selection} {texts : List String} {parameters : Parameters}

/-- Only the rendering of the filters depends on the style. -/
theorem selection_selects
    (ran : query.chain.selection query.dialect query.entity options {} =
      (.ok selection, parameters)) :
    ∃ metadata texts, query.metadata? = some metadata ∧
      QueryChain.renderAll (query.scope metadata (options.tableOr metadata.tableName))
        query.predicates {} = (.ok texts, parameters) ∧
      query.Selects metadata (options.tableOr metadata.tableName) texts selection ∧
      ∀ style others,
        QueryChain.renderAll
          ((query.scope metadata (options.tableOr metadata.tableName)).inStyle style)
          query.predicates {} = (.ok others, parameters) →
        query.chain.selection (query.dialect.inStyle style) query.entity options {} =
          (.ok { selection with condition := QueryChain.conjoin others }, parameters) := by
  rw [QueryChain.selection_eq] at ran
  obtain ⟨function, isFunction, ran⟩ := Action.ofExcept_bind_eq_ok.mp ran
  cases selected : query.chain.selectedType query.entity with
  | none =>
      rw [selected] at ran
      exact absurd ran Action.fail_ne_ok
  | some type =>
      rw [selected] at ran
      obtain ⟨metadata, isMetadata, ran⟩ := Action.ofExcept_bind_eq_ok.mp ran
      obtain ⟨texts, reached, rendered, ran⟩ := Action.bind_eq_ok.mp ran
      obtain ⟨joins, areJoins, ran⟩ := Action.ofExcept_bind_eq_ok.mp ran
      obtain ⟨terms, areTerms, ran⟩ := Action.ofExcept_bind_eq_ok.mp ran
      obtain ⟨rfl, rfl⟩ := Action.answer_eq_ok.mp ran
      have function_eq : query.function? = function := by
        simp [function?, isFunction, Except.toOption]
      rw [← isSome_functionCall isFunction] at rendered
      refine ⟨metadata, texts, ?_, rendered, ?_, fun style others again => ?_⟩
      · simp [metadata?, selected, isMetadata, Except.toOption]
      · exact {
          source := by
            rw [function_eq]
            cases function <;> rfl
          columns := rfl
          condition := rfl
          joins := forall₂_of_mapM areJoins
          orderBy := forall₂_of_mapM areTerms
          isFunction := by rw [function_eq, isSome_functionCall isFunction] }
      · rw [QueryChain.selection_eq]
        refine Action.ofExcept_bind_eq_ok.mpr ⟨function, isFunction, ?_⟩
        rw [selected]
        refine Action.ofExcept_bind_eq_ok.mpr ⟨metadata, isMetadata, ?_⟩
        rw [← isSome_functionCall isFunction]
        exact Action.bind_eq_ok.mpr ⟨others, _, again,
          Action.ofExcept_bind_eq_ok.mpr ⟨joins, areJoins,
            Action.ofExcept_bind_eq_ok.mpr ⟨terms, areTerms, rfl⟩⟩⟩

/-- Whether a function can be called does not depend on the style. -/
theorem called_inStyle {dialect : Dialect} {function : TableFunction} {text : String}
    (style : PlaceholderStyle) (called : dialect.functionCall function = .ok text) :
    ∃ other, (dialect.inStyle style).functionCall function = .ok other := by
  unfold Dialect.functionCall at called ⊢
  split at called
  · rename_i named
    exact ⟨_, if_pos named⟩
  · cases called

namespace Selects

theorem qualifier_eq (selects : query.Selects metadata table texts selection) :
    selection.qualifier = query.qualifier table := by
  have sameEmpty : selection.joins.isEmpty = (QueryChain.joins query.chain.steps).isEmpty := by
    rw [Bool.eq_iff_iff, List.isEmpty_iff_length_eq_zero, List.isEmpty_iff_length_eq_zero,
      selects.joins.length_eq]
  unfold Selection.qualifier Query.qualifier
  rw [sameEmpty, ← selects.isFunction, Selection.table?, selects.source]
  cases query.function? <;> simp

/-- What is read from is mentioned, in whatever style. -/
theorem source_woven (selects : query.Selects metadata table texts selection)
    (style : PlaceholderStyle) {source : String}
    (written : query.dialect.sourceText selection.source = .ok source) :
    ∃ other, (query.dialect.inStyle style).sourceText selection.source = .ok other ∧
      Woven query.dialect style source other [query.function?.elim (.table table) .call] := by
  rw [selects.source] at written ⊢
  cases isFunction : query.function? with
  | none =>
      rw [isFunction] at written
      cases written
      exact ⟨_, rfl, .last (.table table)⟩
  | some function =>
      rw [isFunction] at written
      have called : query.dialect.functionCall function = .ok source := written
      obtain ⟨other, calledOther⟩ := called_inStyle style called
      have text_eq : source = (Mention.call function).text query.dialect := by
        simp [Mention.text, called, Except.toOption]
      have other_eq : other = (Mention.call function).text (query.dialect.inStyle style) := by
        simp [Mention.text, calledOther, Except.toOption]
      refine ⟨other, calledOther, ?_⟩
      rw [text_eq, other_eq]
      exact .last (.call function)

/-- A function that is read from can be called. -/
theorem called (selects : query.Selects metadata table texts selection) {sql : String}
    (written : query.dialect.writeSelect selection = .ok sql) :
    ∀ function ∈ query.function?, Dialect.isFunctionName function.name = true := by
  intro function isFunction
  obtain ⟨source, isSource, _⟩ := writeSelect_eq_ok written
  rw [selects.source, Option.mem_def.mp isFunction] at isSource
  have called : query.dialect.functionCall function = .ok source := isSource
  unfold Dialect.functionCall at called
  split at called
  · assumption
  · cases called

theorem entries_eq (selects : query.Selects metadata table texts selection) :
    metadata.mappedColumns.map
        (fun column => Mention.entry (query.qualifier table) column.columnName) =
      selection.columns.map (.entry selection.qualifier) := by
  rw [selects.columns, selects.qualifier_eq, List.map_map]
  rfl

theorem orderings_eq (selects : query.Selects metadata table texts selection) :
    (query.sortColumns metadata).map (Mention.column (query.qualifier table)) =
      selection.orderBy.map fun term => .column selection.qualifier term.column := by
  rw [sortColumns, sortColumns_eq selects.orderBy, List.map_map, ← selects.qualifier_eq]
  rfl

theorem woven (selects : query.Selects metadata table texts selection) {sql : String}
    {others : List String} {conditions : List Mention}
    (each : WovenEach query.dialect style texts others conditions)
    (nonempty : (∀ text ∈ texts, text ≠ "") ∧ ∀ text ∈ others, text ≠ "")
    (written : query.dialect.writeSelect selection = .ok sql) :
    ∃ other, (query.dialect.inStyle style).writeSelect
        { selection with condition := QueryChain.conjoin others } = .ok other ∧
      Woven query.dialect style sql other (query.mentions metadata table conditions) := by
  obtain ⟨source, isSource, rfl⟩ := writeSelect_eq_ok written
  obtain ⟨sourceOther, isOther, sourceWoven⟩ := selects.source_woven style isSource
  have joinsWoven : WovenEach query.dialect style (selection.joins.map query.dialect.joinClause)
      (selection.joins.map (query.dialect.inStyle style).joinClause)
      ((QueryChain.joins query.chain.steps).flatMap (joinMentions table metadata)) := by
    have joins := selects.joins
    generalize QueryChain.joins query.chain.steps = steps at joins ⊢
    generalize selection.joins = clauses at joins ⊢
    induction joins with
    | nil => exact .nil
    | cons resolved _ ih => exact .cons (joinClause_of_resolveJoin resolved query.dialect) ih
  have parts := QueryChain.conditionParts_conjoin each nonempty
  rw [← selects.condition] at parts
  refine ⟨_, Fault.bind_eq_ok.mpr ⟨sourceOther, isOther, rfl⟩, ?_⟩
  rw [mentions, selects.entries_eq, selects.orderings_eq]
  exact Dialect.selectFrom_woven selection sourceWoven joinsWoven parts

end Selects

/-- A query that compiles has metadata, and its text is woven from what it mentions.  In
another style it compiles with the same parameters. -/
theorem compile_mentions (style : PlaceholderStyle)
    (accepted : query.compile options = .ok compiled) :
    ∃ metadata other conditions, query.metadata? = some metadata ∧
      (query.inStyle style).compile options = .ok { compiled with sql := other } ∧
      query.Mentions style metadata (options.tableOr metadata.tableName) compiled other
        conditions := by
  obtain ⟨selection, parameters, sql, ran, written, rfl⟩ := compile_eq_ok accepted
  obtain ⟨metadata, texts, isMetadata, rendered, selects, selectsAgain⟩ := selection_selects ran
  obtain ⟨others, names, conditions, again, bound, each⟩ := Scope.renderAll_gives style _ rendered
  have numbered : Parameters.bindEach query.constants {} = _ :=
    Parameters.bindEach_numbered [] query.constants
  obtain ⟨rfl, rfl⟩ : _ = names ∧ _ = parameters := by
    simpa using numbered.symm.trans bound
  obtain ⟨other, otherWritten, woven⟩ := selects.woven each.woven each.nonempty written
  exact ⟨metadata, other, conditions, isMetadata,
    compile_of_selection (query.inStyle style) (selectsAgain style others again)
      otherWritten, {
    begins := by
      obtain ⟨source, _, rfl⟩ := writeSelect_eq_ok written
      exact Dialect.begins_selectFrom selection source
    woven := woven
    entries := rfl
    parameters := by
      rw [each.parameters]
      simp [List.range_eq_range']
    columns := each.columns
    resolved := each.resolved
    called := selects.called written }⟩

end Query

end EntitySql
