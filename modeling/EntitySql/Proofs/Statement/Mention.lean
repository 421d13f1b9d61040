import EntitySql.Proofs.Predicate.Origin
import EntitySql.Proofs.Statement.Delete
import EntitySql.Proofs.Statement.Insert

/-!
# What mutations mention

A mutation mentions its table, columns of its type or of its predicate, and parameters of
its own.  In every placeholder style it compiles to the same words and mentions, and the
SELECT that reads its row back leaves the mutation before it alone.
-/

namespace EntitySql

open Sql (Mention Woven Batched)

namespace Statement

variable {dialect : Dialect} {style : PlaceholderStyle} {metadata : Metadata} {entity : Instance}
variable {options : Options} {compiled : Compiled} {table : String}
variable {columns bound : List String} {members arguments : List Value}
variable {parameters reached later : Parameters} {added : List (String × Value)}

/-- A statement, the one without its SELECT behind it, and that in another style have the
same mentions, which come from tables, columns, values and the parameters. -/
structure Written (dialect : Dialect) (style : PlaceholderStyle) (readsBack : Bool)
    (tables columns : List String) (members arguments : List Value)
    (mutation compiled again : Compiled) (mentions : List Mention) : Prop where
  batched : Batched dialect style readsBack mutation.sql compiled.sql again.sql mentions
  parameters : again.parameters = compiled.parameters
  readable : ∀ name ∈ compiled.parameters.map (·.1), (Sql.Operand.parameter name).Readable
  drawn : ∀ mention ∈ mentions,
    mention.DrawnFrom dialect tables columns members arguments (compiled.parameters.map (·.1))

theorem Written.mono {readsBack : Bool} {tables moreTables moreColumns : List String}
    {moreMembers moreArguments : List Value} {mutation again : Compiled} {mentions : List Mention}
    (written : Written dialect style readsBack tables columns members arguments mutation compiled
      again mentions)
    (tableOf : tables ⊆ moreTables) (columnOf : columns ⊆ moreColumns)
    (memberOf : members ⊆ moreMembers) (argumentOf : arguments ⊆ moreArguments) :
    Written dialect style readsBack moreTables moreColumns moreMembers moreArguments mutation
      compiled again mentions where
  batched := written.batched
  parameters := written.parameters
  readable := written.readable
  drawn mention isMention := (written.drawn mention isMention).mono tableOf columnOf memberOf
    argumentOf (List.Subset.refl _)

/-! ## Pairs of columns and parameters -/

/-- Columns with readable names of parameters. -/
def Pairs (columns bound : List String) (pairs : List (String × String)) : Prop :=
  ∀ pair ∈ pairs, pair.1 ∈ columns ∧ pair.2 ∈ bound ∧ (Sql.Operand.parameter pair.2).Readable

theorem Pairs.mono {pairs : List (String × String)} {moreColumns moreBound : List String}
    (areBound : Pairs columns bound pairs) (columnOf : columns ⊆ moreColumns)
    (parameterOf : bound ⊆ moreBound) : Pairs moreColumns moreBound pairs := by
  intro pair isPair
  obtain ⟨isColumn, isBound, readable⟩ := areBound pair isPair
  exact ⟨columnOf isColumn, parameterOf isBound, readable⟩

/-- Columns are paired with parameters that are bound for them. -/
theorem pairs_of_bindColumns {values : List (String × Value)} {pairs : List (String × String)}
    (ran : bindColumns values parameters = (.ok pairs, reached))
    (areColumns : ∀ entry ∈ values, entry.1 ∈ columns) :
    parameters.Grows reached ((pairs.map (·.2)).zip (values.map (·.2))) ∧
      Pairs columns reached.names (Association.ofPairs pairs) := by
  obtain ⟨names, last, bindRan, length_eq, grows⟩ := bindColumns_run values parameters
  have readable := readable_of_bindColumns ran
  rw [ran] at bindRan
  cases bindRan
  refine ⟨by rwa [List.map_snd_zip (by simp [length_eq])], fun pair isStored => ?_⟩
  have isPair := Association.mem_of_mem_ofPairs isStored
  obtain ⟨isColumn, isName⟩ := List.of_mem_zip isPair
  obtain ⟨entry, isEntry, named⟩ := List.mem_map.mp isColumn
  exact ⟨named ▸ areColumns entry isEntry, grows.mem_names (by simp [length_eq]) isName,
    readable pair isPair⟩

theorem equationMentions_drawn {pairs : List (String × String)}
    (areBound : Pairs columns bound pairs) :
    ∀ mention ∈ Dialect.equationMentions pairs,
      mention.DrawnFrom dialect [table] columns members arguments bound := by
  simp only [Dialect.equationMentions, List.forall_mem_flatMap, List.forall_mem_cons,
    List.not_mem_nil, false_implies, implies_true, and_true]
  intro pair isPair
  obtain ⟨isColumn, parameter⟩ := areBound pair isPair
  exact ⟨⟨by simp, isColumn⟩, parameter⟩

/-! ## INSERT -/

/-- What a key is compared with comes from the row that was stored, or was bound for it. -/
theorem Finds.drawn {stored : Association String String} {key : EntityKey} {compared : Mention}
    (finds : Finds table stored parameters reached key compared)
    (areBound : Pairs columns reached.names stored) (isColumn : key.column ∈ columns) :
    compared.DrawnFrom dialect [table] columns members arguments reached.names := by
  cases finds with
  | identity generated => exact ⟨List.mem_singleton_self table, isColumn⟩
  | stored plain found => exact (areBound _ (Association.mem_of_find found)).2
  | own plain missing fresh holds readable => exact ⟨List.mem_map.mpr ⟨_, holds, rfl⟩, readable⟩

theorem readBackMentions_drawn {stored : Association String String} {keys : List EntityKey}
    {compared : List Mention}
    (areFound : List.Forall₂ (Finds table stored parameters reached) keys compared)
    (areBound : Pairs columns reached.names stored)
    (areColumns : ∀ key ∈ keys, key.column ∈ columns) :
    ∀ mention ∈ readBackMentions keys compared,
      mention.DrawnFrom dialect [table] columns members arguments reached.names := by
  induction areFound with
  | nil => simp [readBackMentions]
  | cons finds _ ih =>
      obtain ⟨isColumn, others⟩ := List.forall_mem_cons.mp areColumns
      simp only [readBackMentions, List.forall_mem_cons]
      exact ⟨⟨by simp, isColumn⟩, finds.drawn areBound isColumn, ih others⟩

theorem insertMentions_drawn {pairs : List (String × String)}
    (areBound : Pairs columns bound pairs) :
    ∀ mention ∈ Dialect.insertMentions table pairs,
      mention.DrawnFrom dialect [table] columns members arguments bound := by
  simp only [Dialect.insertMentions, List.cons_append, List.forall_mem_cons,
    List.forall_mem_append, List.forall_mem_map]
  exact ⟨List.mem_singleton_self table, fun pair isPair => ⟨by simp, (areBound pair isPair).1⟩,
    fun pair isPair => (areBound pair isPair).2⟩

theorem storedColumns_subset (metadata : Metadata) :
    metadata.storedColumns ⊆ metadata.mappedColumns := by
  intro column isStored
  obtain ⟨isColumn, stored⟩ := List.mem_filter.mp isStored
  simp only [Bool.and_eq_true] at stored
  exact List.mem_filter.mpr ⟨isColumn, stored.1⟩

theorem entityKeys_mapped (metadata : Metadata) (entity : Instance) :
    ∀ key ∈ metadata.entityKeys entity,
      key.column ∈ metadata.mappedColumns.map (·.columnName) := by
  simp only [Metadata.entityKeys, List.forall_mem_map]
  exact fun column isKey => List.mem_map_of_mem (List.mem_of_mem_filter isKey)

theorem insert_of_run {sql : String} (isMetadata : entity.type.metadata = .ok metadata)
    (ran : insertText dialect metadata entity options {} = (.ok sql, reached)) :
    insert dialect entity options =
      .ok { sql, parameters := reached.entries, dialect := dialect.name } :=
  assembled_of_run isMetadata ran

theorem insertText_readable {sql : String}
    (ran : insertText dialect metadata entity options {} = (.ok sql, reached)) :
    reached.Readable := by
  unfold insertText at ran
  obtain ⟨bound, stored, boundRan, ran⟩ := Action.bind_eq_ok.mp ran
  have readable := readable_bindColumns Parameters.readable_empty boundRan
  split at ran
  · obtain ⟨terms, last, termsRan, ran⟩ := Action.bind_eq_ok.mp ran
    obtain ⟨rfl, rfl⟩ := Action.answer_eq_ok.mp ran
    exact readable_readBackTerms readable termsRan
  · obtain ⟨rfl, rfl⟩ := Action.answer_eq_ok.mp ran
    exact readable

theorem insert_mentions (style : PlaceholderStyle)
    (accepted : insert dialect entity options = .ok compiled) :
    ∃ metadata mutation again mentions, entity.type.metadata = .ok metadata ∧
      insert dialect entity { options with selectAfterMutation := false } = .ok mutation ∧
      insert (dialect.inStyle style) entity options = .ok again ∧
      Written dialect style (options.selectAfterMutation && !metadata.keyColumns.isEmpty)
        [options.tableOr metadata.tableName] (metadata.mappedColumns.map (·.columnName)) [] []
        mutation compiled again mentions := by
  obtain ⟨metadata, sql, reached, isMetadata, ran, rfl⟩ := insert_eq_ok accepted
  obtain ⟨names, stored, length_eq, grows, readable, runs⟩ := insertText_runs metadata entity
  have areBound : Pairs (metadata.mappedColumns.map (·.columnName)) stored.names
      ((metadata.storedColumns.map (·.columnName)).zip names) := by
    intro pair isPair
    obtain ⟨isColumn, isName⟩ := List.of_mem_zip isPair
    exact ⟨List.map_subset _ (storedColumns_subset metadata) isColumn,
      grows.mem_names (by simp [length_eq]) isName, readable _ isName⟩
  have woven : Woven dialect style _ _ _ :=
    Dialect.writeInsert_woven (options.tableOr metadata.tableName)
      ((metadata.storedColumns.map (·.columnName)).zip names)
  rw [List.map_fst_zip (by simp [length_eq]), List.map_snd_zip (by simp [length_eq])] at woven
  have begins := dialect.begins_writeInsert (options.tableOr metadata.tableName)
    (metadata.storedColumns.map (·.columnName)) names
  have mutation := insert_of_run isMetadata
    ((runs { options with selectAfterMutation := false }).1 rfl dialect)
  have sameKeys : (metadata.entityKeys entity).isEmpty = metadata.keyColumns.isEmpty :=
    List.isEmpty_map
  refine ⟨metadata, ?_⟩
  rw [← sameKeys]
  cases wanted : options.selectAfterMutation && !(metadata.entityKeys entity).isEmpty with
  | false =>
      have written := (runs options).1 wanted
      cases (written dialect).symm.trans ran
      exact ⟨_, _, _, isMetadata, mutation, insert_of_run isMetadata (written _), {
        batched := .alone begins woven
        parameters := rfl
        readable := insertText_readable ran
        drawn := insertMentions_drawn areBound }⟩
  | true =>
      obtain ⟨compared, last, added, written, later, areFound⟩ := (runs options).2 wanted
      cases (written dialect).symm.trans ran
      simp only [Bool.and_eq_true, Bool.not_eq_true', List.isEmpty_eq_false_iff] at wanted
      have areReadBack := areFound.imp fun _ _ finds => finds.isReadBack
      -- binding the keys leaves the parameters of the row as they are
      have stillBound := areBound.mono (List.Subset.refl _) later.names_subset
      exact ⟨_, _, _, isMetadata, mutation, insert_of_run isMetadata (written _), {
        batched := .followed begins woven ⟨_, _, rfl⟩
          (Dialect.selectWhole_woven _ (readBack_woven style areFound.length_eq wanted.2)
            ⟨readBack_ne_empty areReadBack wanted.2, readBack_ne_empty areReadBack wanted.2⟩)
        parameters := rfl
        readable := insertText_readable ran
        drawn := List.forall_mem_append.mpr ⟨insertMentions_drawn stillBound,
          List.forall_mem_cons.mpr ⟨List.mem_singleton_self _, readBackMentions_drawn areFound
            (fun pair isStored => stillBound pair (Association.mem_of_mem_ofPairs isStored))
            (entityKeys_mapped metadata entity)⟩⟩ }⟩

/-! ## Predicates -/

/-- What a predicate behind a mutation is rendered in. -/
def scope (dialect : Dialect) (metadata : Metadata) : Scope :=
  { dialect, metadata := some metadata }

/-- The columns of members. -/
def memberColumns (metadata : Metadata) (members : List Value) : List String :=
  members.map fun name => (metadata.columnOf name).plainText

/-- The members of a predicate have columns. -/
def Resolved (dialect : Dialect) (metadata : Metadata) (members : List Value) : Prop :=
  ∀ name ∈ members, ∃ mention, (scope dialect metadata).mentionOf name = .ok mention

/-- A rendered predicate is rendered in every style with the same parameters, and mentions
the columns of its members and its own parameters. -/
theorem render_written (style : PlaceholderStyle) {predicate : Predicate} {text : String}
    (rendered : (scope dialect metadata).render predicate parameters = (.ok text, reached)) :
    ∃ other mentions,
      (scope (dialect.inStyle style) metadata).render predicate parameters =
        (.ok other, reached) ∧
      Woven dialect style text other mentions ∧ (text ≠ "" ∧ other ≠ "") ∧
      Resolved dialect metadata predicate.members ∧ parameters.names ⊆ reached.names ∧
      (parameters.Readable → reached.Readable) ∧
      ∀ mention ∈ mentions, mention.DrawnFrom dialect [] (memberColumns metadata predicate.members)
        predicate.members [] reached.names := by
  obtain ⟨tree, expands, constants, other, names, mentions, again, boundRan, mentioned⟩ :=
    Scope.render_gives style predicate rendered
  have members : predicate.members = tree.memberNames := by
    simp [Predicate.members, expands, Except.toOption]
  obtain ⟨eachName, last, eachRan, length_eq, entries⟩ :=
    Parameters.bindEach_run tree.boundConstants parameters
  rw [boundRan] at eachRan
  cases eachRan
  have names_eq : reached.names = parameters.names ++ names := by
    rw [Parameters.names, entries, List.map_append, List.map_fst_zip (Nat.le_of_eq length_eq)]
    rfl
  refine ⟨other, mentions, again, mentioned.woven, mentioned.nonempty, ?_, ?_,
    fun readable => readable.bindEach boundRan, ?_⟩
  · rw [members]
    exact mentioned.resolved
  · rw [names_eq]
    exact List.subset_append_left _ _
  · change ∀ mention ∈ mentions, mention.DrawnFrom (scope dialect metadata).dialect _ _ _ _ _
    refine Scope.columns_drawn rfl (by simp [scope])
      (fun name isMember => List.mem_map.mpr ⟨name, isMember, rfl⟩) mentioned.parameters
      (fun name isName => ?_) (members ▸ mentioned.columns)
    refine ⟨?_, Parameters.generated_of_bindEach boundRan name isName⟩
    rw [names_eq]
    exact List.mem_append_right _ isName

/-! ## UPDATE -/

section Update

variable {condition : Option Predicate} {predicate : Predicate} {middle last : Parameters}
variable {assigned pairs : List (String × String)} {sql text : String}

theorem update_eq_ok (accepted : update dialect entity condition options = .ok compiled) :
    ∃ metadata sql reached, entity.type.metadata = .ok metadata ∧
      updateText dialect metadata entity condition options {} = (.ok sql, reached) ∧
      compiled = { sql, parameters := reached.entries, dialect := dialect.name } :=
  assembled_eq_ok accepted

theorem update_of_run (isMetadata : entity.type.metadata = .ok metadata)
    (ran : updateText dialect metadata entity condition options {} = (.ok sql, reached)) :
    update dialect entity condition options =
      .ok { sql, parameters := reached.entries, dialect := dialect.name } :=
  assembled_of_run isMetadata ran

/-- Without a predicate the keys of the row are bound behind its values. -/
theorem updateText_keys_eq_ok :
    updateText dialect metadata entity none options {} = (.ok sql, reached) ↔
      ∃ assigned middle pairs, metadata.keyColumns ≠ [] ∧ assigned ≠ [] ∧
        bindColumns (updatedValues metadata entity) {} = (.ok assigned, middle) ∧
        bindColumns (keyValues metadata entity) middle = (.ok pairs, reached) ∧
        sql = dialect.writeUpdate (options.tableOr metadata.tableName)
          (Association.ofPairs assigned) (Association.ofPairs pairs) options.selectAfterMutation
          (Association.ofPairs pairs) none := by
  simp only [updateText, Option.isNone_none, Bool.true_and, List.isEmpty_iff]
  constructor
  · intro ran
    split at ran
    · exact absurd ran Action.fail_ne_ok
    · rename_i someKeys
      obtain ⟨assigned, middle, assignedRan, ran⟩ := Action.bind_eq_ok.mp ran
      split at ran
      · exact absurd ran Action.fail_ne_ok
      · rename_i given
        obtain ⟨pairs, last, pairsRan, ran⟩ := Action.bind_eq_ok.mp ran
        obtain ⟨rfl, rfl⟩ := Action.answer_eq_ok.mp ran
        exact ⟨assigned, middle, pairs, someKeys, given, assignedRan, pairsRan, rfl⟩
  · rintro ⟨assigned, middle, pairs, someKeys, given, assignedRan, pairsRan, rfl⟩
    rw [if_neg someKeys, Action.bind_of_ok assignedRan, if_neg given, Action.bind_of_ok pairsRan]
    rfl

/-- With a predicate the keys of the row are bound last, and only to read it back. -/
theorem updateText_rows_eq_ok :
    updateText dialect metadata entity (some predicate) options {} = (.ok sql, reached) ↔
      ∃ assigned middle single text last pairs, assigned ≠ [] ∧
        bindColumns (updatedValues metadata entity) {} = (.ok assigned, middle) ∧
        (scope dialect metadata).singleComparison predicate = .ok single ∧
        (scope dialect metadata).render predicate middle = (.ok text, last) ∧
        bindColumns (if options.selectAfterMutation then keyValues metadata entity else []) last =
          (.ok pairs, reached) ∧
        sql = dialect.writeUpdate (options.tableOr metadata.tableName)
          (Association.ofPairs assigned) [] options.selectAfterMutation
          (Association.ofPairs pairs) (some text) := by
  have keysRun (next : List (String × String) → Action Parameters String) :
      (if options.selectAfterMutation then bindColumns (keyValues metadata entity) >>= next
        else pure [] >>= next) =
      bindColumns (if options.selectAfterMutation then keyValues metadata entity else []) >>=
        next := by
    split <;> rfl
  simp only [updateText, Option.isNone_some, Bool.false_and, Bool.false_eq_true, if_false, keysRun,
    List.isEmpty_iff]
  constructor
  · intro ran
    obtain ⟨assigned, middle, assignedRan, ran⟩ := Action.bind_eq_ok.mp ran
    split at ran
    · exact absurd ran Action.fail_ne_ok
    · rename_i given
      obtain ⟨single, isSingle, ran⟩ := Action.ofExcept_bind_eq_ok.mp ran
      obtain ⟨text, last, rendered, ran⟩ := Action.bind_eq_ok.mp ran
      obtain ⟨pairs, after, pairsRan, ran⟩ := Action.bind_eq_ok.mp ran
      obtain ⟨rfl, rfl⟩ := Action.answer_eq_ok.mp ran
      exact ⟨assigned, middle, single, text, last, pairs, given, assignedRan, isSingle, rendered,
        pairsRan, rfl⟩
  · rintro ⟨assigned, middle, single, text, last, pairs, given, assignedRan, isSingle, rendered,
      pairsRan, rfl⟩
    rw [Action.bind_of_ok assignedRan, if_neg given]
    exact Action.ofExcept_bind_eq_ok.mpr ⟨single, isSingle, Action.bind_eq_ok.mpr
      ⟨text, last, rendered, Action.bind_eq_ok.mpr ⟨pairs, reached, pairsRan, rfl⟩⟩⟩

theorem updateMentions_drawn {assignments keys : List (String × String)} {mentions : List Mention}
    {readsBack : Bool} (areAssigned : Pairs columns bound assignments)
    (conditionDrawn : ∀ mention ∈ mentions,
      mention.DrawnFrom dialect [table] columns members arguments bound)
    (areKeys : Pairs columns bound keys) :
    ∀ mention ∈ Dialect.updateMentions table assignments mentions readsBack keys,
      mention.DrawnFrom dialect [table] columns members arguments bound := by
  simp only [Dialect.updateMentions, List.cons_append, List.forall_mem_cons,
    List.forall_mem_append]
  refine ⟨List.mem_singleton_self table,
    ⟨equationMentions_drawn areAssigned, conditionDrawn⟩, ?_⟩
  split
  · exact List.forall_mem_cons.mpr ⟨List.mem_singleton_self table, equationMentions_drawn areKeys⟩
  · simp

theorem updatedValues_columns (metadata : Metadata) (entity : Instance) :
    ∀ entry ∈ updatedValues metadata entity,
      entry.1 ∈ metadata.mappedColumns.map (·.columnName) := by
  simp only [updatedValues, List.forall_mem_map]
  intro entry isEntry
  obtain ⟨mapped, isMapped, rfl⟩ := List.mem_map.mp (List.mem_of_mem_filter isEntry)
  exact List.mem_map_of_mem isMapped

theorem keyValues_columns (metadata : Metadata) (entity : Instance) :
    ∀ entry ∈ keyValues metadata entity, entry.1 ∈ metadata.mappedColumns.map (·.columnName) := by
  simp only [keyValues, List.forall_mem_map]
  exact fun column isKey => List.mem_map_of_mem (List.mem_of_mem_filter isKey)

theorem isEmpty_ofPairs_keyValues {pairs : List (String × String)}
    (ran : bindColumns (keyValues metadata entity) parameters = (.ok pairs, reached)) :
    (Association.ofPairs pairs).isEmpty = metadata.keyColumns.isEmpty := by
  have columns_eq := congrArg List.length (columns_of_bindColumns ran)
  simp only [keyValues, List.length_map] at columns_eq
  rw [Bool.eq_iff_iff, List.isEmpty_iff, List.isEmpty_iff, Association.ofPairs_eq_nil_iff,
    ← List.length_eq_zero_iff, ← List.length_eq_zero_iff, columns_eq]

theorem updateText_readable
    (ran : updateText dialect metadata entity condition options {} = (.ok sql, reached)) :
    reached.Readable := by
  cases condition with
  | none =>
      obtain ⟨assigned, middle, pairs, _, _, assignedRan, pairsRan, _⟩ :=
        updateText_keys_eq_ok.mp ran
      exact readable_bindColumns
        (readable_bindColumns Parameters.readable_empty assignedRan) pairsRan
  | some predicate =>
      obtain ⟨assigned, middle, single, text, last, pairs, _, assignedRan, _, rendered, pairsRan,
        _⟩ := updateText_rows_eq_ok.mp ran
      obtain ⟨_, _, _, _, _, _, _, keeps, _⟩ := render_written dialect.style rendered
      exact readable_bindColumns
        (keeps (readable_bindColumns Parameters.readable_empty assignedRan)) pairsRan

/-- An UPDATE by the keys of its row. -/
theorem update_mentions_keys (style : PlaceholderStyle) {sql : String}
    (ran : updateText dialect metadata entity none options {} = (.ok sql, reached)) :
    ∃ statement other mentions,
      updateText dialect metadata entity none { options with selectAfterMutation := false } {} =
        (.ok statement, reached) ∧
      updateText (dialect.inStyle style) metadata entity none options {} = (.ok other, reached) ∧
      Batched dialect style (options.selectAfterMutation && !metadata.keyColumns.isEmpty)
        statement sql other mentions ∧
      ∀ mention ∈ mentions, mention.DrawnFrom dialect [options.tableOr metadata.tableName]
        (metadata.mappedColumns.map (·.columnName)) [] [] reached.names := by
  obtain ⟨assigned, middle, pairs, someKeys, given, assignedRan, pairsRan, rfl⟩ :=
    updateText_keys_eq_ok.mp ran
  obtain ⟨_, areAssigned⟩ :=
    pairs_of_bindColumns assignedRan (updatedValues_columns metadata entity)
  obtain ⟨keysGrow, areKeys⟩ := pairs_of_bindColumns pairsRan (keyValues_columns metadata entity)
  have someAssigned : Association.ofPairs assigned ≠ [] :=
    fun empty => given (Association.ofPairs_eq_nil_iff.mp empty)
  have sameKeys := isEmpty_ofPairs_keyValues pairsRan
  have somePairs : Association.ofPairs pairs ≠ [] := by
    rw [← List.isEmpty_eq_false_iff, sameKeys]
    simpa using someKeys
  refine ⟨_, _, Dialect.updateMentions _ _ _ options.selectAfterMutation _,
    updateText_keys_eq_ok.mpr
      ⟨assigned, middle, pairs, someKeys, given, assignedRan, pairsRan, rfl⟩,
    updateText_keys_eq_ok.mpr
      ⟨assigned, middle, pairs, someKeys, given, assignedRan, pairsRan, rfl⟩,
    ?_, updateMentions_drawn (areAssigned.mono (List.Subset.refl _) keysGrow.names_subset)
      (equationMentions_drawn areKeys) areKeys⟩
  rw [← sameKeys]
  exact Dialect.writeUpdate_batched _ _ _ someAssigned (Dialect.equations_woven somePairs)
    ⟨Dialect.equations_ne_empty somePairs, Dialect.equations_ne_empty somePairs⟩

/-- An UPDATE on the rows that satisfy a predicate. -/
theorem update_mentions_rows (style : PlaceholderStyle) {sql : String} {predicate : Predicate}
    (ran : updateText dialect metadata entity (some predicate) options {} = (.ok sql, reached)) :
    Resolved dialect metadata predicate.members ∧ ∃ statement before other mentions,
      updateText dialect metadata entity (some predicate)
        { options with selectAfterMutation := false } {} = (.ok statement, before) ∧
      updateText (dialect.inStyle style) metadata entity (some predicate) options {} =
        (.ok other, reached) ∧
      Batched dialect style (options.selectAfterMutation && !metadata.keyColumns.isEmpty)
        statement sql other mentions ∧
      ∀ mention ∈ mentions, mention.DrawnFrom dialect [options.tableOr metadata.tableName]
        (metadata.mappedColumns.map (·.columnName) ++ memberColumns metadata predicate.members)
        predicate.members [] reached.names := by
  obtain ⟨assigned, middle, single, text, last, pairs, given, assignedRan, isSingle, rendered,
    pairsRan, rfl⟩ := updateText_rows_eq_ok.mp ran
  obtain ⟨other, mentions, again, woven, nonempty, resolved, kept, _, drawn⟩ :=
    render_written style rendered
  obtain ⟨_, areAssigned⟩ :=
    pairs_of_bindColumns assignedRan (updatedValues_columns metadata entity)
  have keysIn : ∀ entry ∈ (if options.selectAfterMutation then keyValues metadata entity else []),
      entry.1 ∈ metadata.mappedColumns.map (·.columnName) := by
    split
    · exact keyValues_columns metadata entity
    · simp
  obtain ⟨keysGrow, areKeys⟩ := pairs_of_bindColumns pairsRan keysIn
  -- the keys are bound only if the row is read back
  have sameKeys : (options.selectAfterMutation && !(Association.ofPairs pairs).isEmpty) =
      (options.selectAfterMutation && !metadata.keyColumns.isEmpty) := by
    cases wanted : options.selectAfterMutation with
    | false => rfl
    | true =>
        rw [wanted, if_pos rfl] at pairsRan
        rw [isEmpty_ofPairs_keyValues pairsRan]
  have someAssigned : Association.ofPairs assigned ≠ [] :=
    fun empty => given (Association.ofPairs_eq_nil_iff.mp empty)
  refine ⟨resolved, _, _, _, Dialect.updateMentions _ (Association.ofPairs assigned) mentions
      options.selectAfterMutation (Association.ofPairs pairs),
    updateText_rows_eq_ok.mpr
      ⟨assigned, middle, single, text, last, [], given, assignedRan, isSingle, rendered, rfl, rfl⟩,
    updateText_rows_eq_ok.mpr
      ⟨assigned, middle, single, other, last, pairs, given, assignedRan, isSingle, again, pairsRan,
        rfl⟩,
    ?_, updateMentions_drawn ?_ (fun mention isMention => ?_) ?_⟩
  · rw [← sameKeys]
    apply Dialect.writeUpdate_batched _ _ _ someAssigned
    · rwa [Dialect.chosenCondition_some _ nonempty.1, Dialect.chosenCondition_some _ nonempty.2]
    · rwa [Dialect.chosenCondition_some _ nonempty.1, Dialect.chosenCondition_some _ nonempty.2]
  · exact areAssigned.mono (List.subset_append_left _ _)
      (List.Subset.trans kept keysGrow.names_subset)
  · exact (drawn mention isMention).mono (List.nil_subset _) (List.subset_append_right _ _)
      (List.Subset.refl _) (List.Subset.refl _) keysGrow.names_subset
  · exact areKeys.mono (List.subset_append_left _ _) (List.Subset.refl _)

theorem update_mentions (style : PlaceholderStyle)
    (accepted : update dialect entity condition options = .ok compiled) :
    ∃ metadata mutation again mentions, entity.type.metadata = .ok metadata ∧
      Resolved dialect metadata (condition.toList.flatMap Predicate.members) ∧
      update dialect entity condition { options with selectAfterMutation := false } = .ok mutation ∧
      update (dialect.inStyle style) entity condition options = .ok again ∧
      Written dialect style (options.selectAfterMutation && !metadata.keyColumns.isEmpty)
        [options.tableOr metadata.tableName]
        (metadata.mappedColumns.map (·.columnName) ++
          memberColumns metadata (condition.toList.flatMap Predicate.members))
        (condition.toList.flatMap Predicate.members) [] mutation compiled again mentions := by
  obtain ⟨metadata, sql, reached, isMetadata, ran, rfl⟩ := update_eq_ok accepted
  cases condition with
  | none =>
      obtain ⟨statement, other, mentions, alone, again, batched, drawn⟩ :=
        update_mentions_keys style ran
      exact ⟨metadata, _, _, mentions, isMetadata, by simp [Resolved],
        update_of_run isMetadata alone,
        update_of_run isMetadata again, batched, rfl, updateText_readable ran,
        by simpa [memberColumns, Parameters.names] using drawn⟩
  | some predicate =>
      obtain ⟨resolved, statement, before, other, mentions, alone, again, batched, drawn⟩ :=
        update_mentions_rows style ran
      exact ⟨metadata, _, _, mentions, isMetadata, by simpa using resolved,
        update_of_run isMetadata alone, update_of_run isMetadata again, batched, rfl,
        updateText_readable ran,
        by simpa [Parameters.names] using drawn⟩

end Update

/-! ## DELETE -/

/-- The column of a member that a value names. -/
def namedColumn (metadata : Metadata) : Value → Option String
  | .text member => some (metadata.columnNameOf member)
  | _ => none

/-- The columns of the keys by which rows are deleted, if there is no predicate. -/
def deletedColumns (metadata : Metadata) (condition : Option Predicate)
    (keys : Option KeyValues) : List String :=
  match condition with
  | some _ => []
  | none => ((keys.map KeyValues.members).getD []).filterMap fun member =>
      namedColumn metadata member.1

theorem filterMap_namedEntries (metadata : Metadata) (named : List (String × Value)) :
    ((namedEntries named).filterMap fun member => namedColumn metadata member.1) =
      named.map fun entry => metadata.columnNameOf entry.1 := by
  simp [namedEntries, namedColumn, List.filterMap_map]

section Delete

variable {type : EntityType} {condition : Option Predicate} {keys : Option KeyValues}
variable {warnings : List Warning} {sql : String}

theorem delete_of_run (isMetadata : type.metadata = .ok metadata)
    (ran : deleteText dialect metadata condition keys options {} = (.ok (sql, warnings), reached)) :
    delete dialect type condition keys options =
      .ok ({ sql, parameters := reached.entries, dialect := dialect.name }, warnings) :=
  Fault.bind_eq_ok.mpr ⟨metadata, isMetadata, assemble_eq_ok.mpr ⟨sql, reached, ran, rfl⟩⟩

/-- A DELETE of the rows that satisfy a predicate. -/
theorem delete_mentions_rows (style : PlaceholderStyle) {predicate : Predicate}
    (ran : deleteText dialect metadata (some predicate) keys options {} =
      (.ok (sql, warnings), reached)) :
    ∃ other mentions,
      deleteText (dialect.inStyle style) metadata (some predicate) keys options {} =
        (.ok (other, warnings), reached) ∧
      Batched dialect style false sql sql other mentions ∧
      Resolved dialect metadata predicate.members ∧ reached.Readable ∧
      ∀ mention ∈ mentions, mention.DrawnFrom dialect [options.tableOr metadata.tableName]
        (memberColumns metadata predicate.members) predicate.members [] reached.names := by
  obtain ⟨text, last, rendered, ran⟩ := Action.bind_eq_ok.mp ran
  obtain ⟨written, rfl⟩ := Action.answer_eq_ok.mp ran
  cases written
  obtain ⟨other, mentions, again, woven, nonempty, resolved, _, readable, drawn⟩ :=
    render_written style rendered
  rw [if_neg (by simpa using nonempty.1)]
  have ranAgain : deleteText (dialect.inStyle style) metadata (some predicate) keys options {} =
      (.ok ((dialect.inStyle style).writeDelete (options.tableOr metadata.tableName) []
        (some other), []), last) :=
    Action.bind_eq_ok.mpr ⟨other, last, again, by simp [nonempty.2]; rfl⟩
  refine ⟨_, .table (options.tableOr metadata.tableName) :: mentions, ranAgain, ?_, resolved,
    readable Parameters.readable_empty, List.forall_mem_cons.mpr
      ⟨List.mem_singleton_self _, fun mention isMention => ?_⟩⟩
  · rw [Dialect.writeDelete, Dialect.writeDelete, Dialect.chosenCondition_some _ nonempty.1,
      Dialect.chosenCondition_some _ nonempty.2]
    exact .alone (Dialect.begins_deleteLine _ _)
      (Dialect.restricted_woven (Dialect.deleteTarget_woven _) woven nonempty)
  · exact (drawn mention isMention).mono (List.nil_subset _) (List.Subset.refl _)
      (List.Subset.refl _) (List.Subset.refl _) (List.Subset.refl _)

/-- A DELETE by keys. -/
theorem delete_mentions_keys (style : PlaceholderStyle)
    (ran : deleteText dialect metadata none keys options {} = (.ok (sql, warnings), reached)) :
    ∃ other mentions,
      deleteText (dialect.inStyle style) metadata none keys options {} =
        (.ok (other, warnings), reached) ∧
      Batched dialect style false sql sql other mentions ∧ reached.Readable ∧
      (∀ mention ∈ mentions, mention.DrawnFrom dialect [options.tableOr metadata.tableName]
        (deletedColumns metadata none keys) [] [] reached.names) ∧
      ∀ column ∈ deletedColumns metadata none keys, .column none column ∈ mentions := by
  obtain ⟨bound, last, boundRan, ran⟩ := Action.bind_eq_ok.mp ran
  obtain ⟨written, rfl⟩ := Action.answer_eq_ok.mp ran
  cases written
  obtain ⟨named, members, columnsRan⟩ := bindMembers_run boundRan
  have columns_eq : bound.map (·.1) = deletedColumns metadata none keys := by
    simp only [deletedColumns, members]
    rw [filterMap_namedEntries, columns_of_bindColumns columnsRan, List.map_map]
    rfl
  have areColumns : ∀ entry ∈ named.map fun entry => (metadata.columnNameOf entry.1, entry.2),
      entry.1 ∈ deletedColumns metadata none keys := by
    intro entry isEntry
    rw [← columns_eq, columns_of_bindColumns columnsRan]
    exact List.mem_map_of_mem isEntry
  obtain ⟨_, areBound⟩ := pairs_of_bindColumns columnsRan areColumns
  refine ⟨_, _, Action.bind_eq_ok.mpr ⟨bound, last, boundRan, rfl⟩,
    .alone (Dialect.begins_deleteLine _ _) (Dialect.writeDelete_woven _ _),
    readable_bindColumns Parameters.readable_empty columnsRan,
    List.forall_mem_cons.mpr ⟨List.mem_singleton_self _, equationMentions_drawn areBound⟩,
    fun column isDeleted => ?_⟩
  rw [← columns_eq, ← Association.mem_keys_ofPairs] at isDeleted
  obtain ⟨pair, isPair, rfl⟩ := List.mem_map.mp isDeleted
  exact List.mem_cons_of_mem _ (List.mem_flatMap.mpr ⟨pair, isPair, by simp⟩)

theorem delete_mentions (style : PlaceholderStyle)
    (accepted : delete dialect type condition keys options = .ok (compiled, warnings)) :
    ∃ metadata again mentions, type.metadata = .ok metadata ∧
      Resolved dialect metadata (condition.toList.flatMap Predicate.members) ∧
      delete (dialect.inStyle style) type condition keys options = .ok (again, warnings) ∧
      Written dialect style false [options.tableOr metadata.tableName]
        (memberColumns metadata (condition.toList.flatMap Predicate.members) ++
          deletedColumns metadata condition keys)
        (condition.toList.flatMap Predicate.members) [] compiled compiled again mentions ∧
      ∀ column ∈ deletedColumns metadata condition keys, .column none column ∈ mentions := by
  obtain ⟨metadata, sql, reached, isMetadata, ran, rfl⟩ := delete_eq_ok accepted
  cases condition with
  | some predicate =>
      obtain ⟨other, mentions, again, batched, resolved, readable, drawn⟩ :=
        delete_mentions_rows style ran
      exact ⟨metadata, _, mentions, isMetadata, by simpa using resolved,
        delete_of_run isMetadata again,
        ⟨batched, rfl, readable, by simpa [deletedColumns, Parameters.names] using drawn⟩,
        by simp [deletedColumns]⟩
  | none =>
      obtain ⟨other, mentions, again, batched, readable, drawn, areDeleted⟩ :=
        delete_mentions_keys style ran
      exact ⟨metadata, _, mentions, isMetadata, by simp [Resolved], delete_of_run isMetadata again,
        ⟨batched, rfl, readable, by simpa [memberColumns, Parameters.names] using drawn⟩,
        areDeleted⟩

end Delete

end Statement

end EntitySql
