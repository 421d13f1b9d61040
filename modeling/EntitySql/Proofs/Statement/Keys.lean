import EntitySql.Proofs.Predicate.Membership
import EntitySql.Proofs.Statement.Condition
import EntitySql.Proofs.Statement.Withheld

/-!
# Rows found and rows deleted by keys

A row is looked up by a predicate, in which null is tested for as such, while a DELETE
equates the columns of the keys with parameters, whatever is bound to them.  Of keys that
are not null both mean the same rows.  With a key that is null a row may be found, but
none is deleted.
-/

namespace EntitySql

open Sql (Truth Database Condition Operand)

/-! ## Equated columns -/

namespace Dialect

variable {dialect : Dialect} {column : String}

/-- The name that the database knows a column by, if it is written as one quoted
identifier. -/
def storedColumn (dialect : Dialect) (column : String) : String :=
  (dialect.delimiters.contentOf (dialect.identifier column)).getD column

theorem identifier_eq_enclose (quoted : dialect.delimiters.IsQuoted (dialect.identifier column)) :
    dialect.identifier column = dialect.delimiters.enclose (dialect.storedColumn column) := by
  obtain ⟨content, enclosed⟩ := Text.Delimiters.isQuoted_iff.mp quoted
  rw [storedColumn, enclosed, Text.Delimiters.contentOf_enclose, Option.getD_some]

/-- The condition that a column equals a parameter. -/
def equality (dialect : Dialect) (pair : String × String) : Condition :=
  .compare .equal (.column (dialect.storedColumn pair.1)) (.parameter pair.2)

theorem text_equality {pair : String × String}
    (quoted : dialect.delimiters.IsQuoted (dialect.identifier pair.1)) :
    (dialect.equality pair).text dialect = dialect.equation pair := by
  rw [equation, identifier_eq_enclose quoted]
  simp [equality, Condition.text, Operand.text, Comparator.token, ← String.toList_inj]

theorem truth_equality (database : Database) (bindings : Sql.Bindings) (row : database.Row)
    (pair : String × String) :
    (dialect.equality pair).truth database bindings row =
      (Association.find bindings pair.2).map fun value =>
        database.compare .equal (row (dialect.storedColumn pair.1)) (database.ofValue value) := by
  cases found : Association.find bindings pair.2 <;> simp [equality, Condition.truth, found]

/-- Equated columns are read as a condition that is true of the rows in which each column
is equal to what is bound to its parameter. -/
theorem read_equations (dialect : Dialect) (bindings : Sql.Bindings)
    {pairs : List (String × String)} (given : pairs ≠ [])
    (quoted : ∀ pair ∈ pairs, dialect.delimiters.IsQuoted (dialect.identifier pair.1))
    (readable : ∀ pair ∈ pairs, (Operand.parameter pair.2).Readable)
    (bound : ∀ pair ∈ pairs, ∃ value, Association.find bindings pair.2 = some value) :
    ∃ condition, Sql.read dialect (dialect.equations pairs) = some condition ∧
      ∀ (database : Database) (row : database.Row), ∃ truth,
        condition.truth database bindings row = some truth ∧
        (truth = .yes ↔ ∀ pair ∈ pairs, ∃ value, Association.find bindings pair.2 = some value ∧
          database.compare .equal (row (dialect.storedColumn pair.1)) (database.ofValue value) =
            .yes) := by
  have texts : pairs.map dialect.equation =
      (pairs.map dialect.equality).map (·.text dialect) := by
    rw [List.map_map]
    exact List.map_congr_left fun pair isPair => (text_equality (quoted pair isPair)).symm
  cases pairs with
  | nil => exact absurd rfl given
  | cons first rest =>
      refine ⟨Condition.conjunction (dialect.equality first) (rest.map dialect.equality), ?_,
        fun database row => ?_⟩
      · rw [equations, texts]
        refine Sql.read_conjunction dialect ?_ ?_ <;> rw [← List.map_cons, List.forall_mem_map]
        · exact fun _ _ => trivial
        · exact fun pair isPair => ⟨trivial, readable pair isPair⟩
      · have known : ∀ pair ∈ first :: rest, ∃ truth,
            (dialect.equality pair).truth database bindings row = some truth := by
          intro pair isPair
          obtain ⟨value, found⟩ := bound pair isPair
          exact ⟨_, by rw [truth_equality, found]; rfl⟩
        obtain ⟨⟨start, isStart⟩, restKnown⟩ := List.forall_mem_cons.mp known
        obtain ⟨whole, folded, isYes⟩ := Sql.foldl_bothTruths start restKnown
        refine ⟨whole, ?_, ?_⟩
        · rw [Condition.truth_conjunction, List.map_map, isStart]
          exact folded
        · simp only [← Option.map_eq_some_iff, ← truth_equality]
          rw [isYes, List.forall_mem_cons, isStart, Option.some.injEq]

end Dialect

namespace Statement

variable {dialect : Dialect} {metadata : Metadata} {options : Options} {type : EntityType}
variable {entries : List (String × Value)} {parameters reached : Parameters}

/-! ## Rows deleted by keys -/

/-- A parameter that a column is bound to holds a value that is given for the column. -/
theorem value_of_bound {values : List (String × Value)} {names : List String}
    (length_eq : names.length = values.length) (nodup : names.Nodup) {pair : String × String}
    (isPair : pair ∈ (values.map (·.1)).zip names) :
    ∃ entry ∈ values, entry.1 = pair.1 ∧
      Association.find (names.zip (values.map (·.2))) pair.2 = some entry.2 := by
  obtain ⟨index, inside, rfl⟩ := List.mem_iff_getElem.mp isPair
  simp only [List.length_zip, List.length_map, length_eq, Nat.min_self] at inside
  refine ⟨values[index], List.getElem_mem inside, by simp, Association.find_of_mem ?_ ?_⟩
  · rwa [List.map_fst_zip (by simp [length_eq])]
  · exact List.mem_iff_getElem.mpr ⟨index, by simpa [length_eq] using inside, by simp⟩

/-- Of columns that are bound one after the other the last parameter of each counts.  If all
values for a column are the same, each column has its value. -/
theorem forall_ofPairs_iff (holds : String → Value → Prop) {values : List (String × Value)}
    {names : List String} (length_eq : names.length = values.length)
    (nodup : names.Nodup)
    (oneValue : ∀ first ∈ values, ∀ second ∈ values, first.1 = second.1 → first.2 = second.2) :
    (∀ pair ∈ Association.ofPairs ((values.map (·.1)).zip names), ∃ value,
      Association.find (names.zip (values.map (·.2))) pair.2 = some value ∧ holds pair.1 value) ↔
      ∀ entry ∈ values, holds entry.1 entry.2 := by
  constructor
  · intro each entry isEntry
    have isColumn : entry.1 ∈ (Association.ofPairs ((values.map (·.1)).zip names)).map (·.1) := by
      rw [Association.mem_keys_ofPairs, List.map_fst_zip (by simp [length_eq])]
      exact List.mem_map_of_mem isEntry
    obtain ⟨pair, isPair, named⟩ := List.mem_map.mp isColumn
    obtain ⟨other, isOther, sameColumn, otherFound⟩ :=
      value_of_bound length_eq nodup (Association.mem_of_mem_ofPairs isPair)
    obtain ⟨value, valueFound, holdsValue⟩ := each pair isPair
    rw [otherFound, Option.some.injEq] at valueFound
    have sameValue := oneValue other isOther entry isEntry (sameColumn.trans named)
    rwa [← valueFound, sameValue, named] at holdsValue
  · intro each pair isPair
    obtain ⟨entry, isEntry, sameColumn, entryFound⟩ :=
      value_of_bound length_eq nodup (Association.mem_of_mem_ofPairs isPair)
    exact ⟨entry.2, entryFound, sameColumn ▸ each entry isEntry⟩

/-- Columns that are equated with the parameters of their values are read as a condition
that is true of the rows with just these values. -/
theorem read_bound (dialect : Dialect) {values : List (String × Value)}
    {bound : List (String × String)}
    (ran : bindColumns values {} = (.ok bound, reached)) (given : values ≠ [])
    (quoted : ∀ entry ∈ values, dialect.delimiters.IsQuoted (dialect.identifier entry.1))
    (oneValue : ∀ first ∈ values, ∀ second ∈ values, first.1 = second.1 → first.2 = second.2) :
    ∃ condition, Sql.read dialect (dialect.equations (Association.ofPairs bound)) = some condition ∧
      ∀ (database : Database) (row : database.Row), ∃ truth,
        condition.truth database reached.entries row = some truth ∧
        (truth = .yes ↔ ∀ entry ∈ values, database.compare .equal
          (row (dialect.storedColumn entry.1)) (database.ofValue entry.2) = .yes) := by
  obtain ⟨names, last, again, length_eq, entries_eq, distinct⟩ := bindColumns_run values {}
  have readable := readable_of_bindColumns ran
  rw [ran] at again
  cases again
  rw [List.nil_append] at entries_eq
  have nodup : names.Nodup := by
    have keys := distinct List.nodup_nil
    rwa [Parameters.names, entries_eq, List.map_fst_zip (by simp [length_eq])] at keys
  have someBound : Association.ofPairs ((values.map (·.1)).zip names) ≠ [] := by
    intro empty
    have noNames := congrArg List.length (Association.ofPairs_eq_nil_iff.mp empty)
    simp [length_eq, given] at noNames
  have known (pair : String × String)
      (isPair : pair ∈ Association.ofPairs ((values.map (·.1)).zip names)) :=
    value_of_bound length_eq nodup (Association.mem_of_mem_ofPairs isPair)
  obtain ⟨condition, isRead, means⟩ := Dialect.read_equations dialect reached.entries someBound
    (fun pair isPair => by
      obtain ⟨entry, isEntry, sameColumn, _⟩ := known pair isPair
      exact sameColumn ▸ quoted entry isEntry)
    (fun pair isPair => readable pair (Association.mem_of_mem_ofPairs isPair))
    (fun pair isPair => by
      obtain ⟨entry, _, _, found⟩ := known pair isPair
      exact ⟨entry.2, entries_eq ▸ found⟩)
  refine ⟨condition, isRead, fun database row => ?_⟩
  obtain ⟨truth, isTruth, isYes⟩ := means database row
  refine ⟨truth, isTruth, isYes.trans ?_⟩
  rw [entries_eq]
  exact forall_ofPairs_iff (fun column value => database.compare .equal
    (row (dialect.storedColumn column)) (database.ofValue value) = .yes) length_eq nodup oneValue

/-- The columns of members, with the values that are given for the members. -/
def columnsOf (metadata : Metadata) (entries : List (String × Value)) : List (String × Value) :=
  entries.map fun entry => (metadata.columnNameOf entry.1, entry.2)

theorem bindMembers_namedEntries (metadata : Metadata) (entries : List (String × Value))
    (parameters : Parameters) :
    bindMembers metadata (namedEntries entries) parameters =
      bindColumns (columnsOf metadata entries) parameters := by
  induction entries generalizing parameters with
  | nil => rfl
  | cons entry rest ih =>
      have restSame : bindMembers metadata (namedEntries rest) =
          bindColumns (columnsOf metadata rest) := funext ih
      simp only [namedEntries, columnsOf, List.map_cons, bindMembers, bindColumns] at restSame ⊢
      rw [restSame]

/-- A DELETE by the keys of a mapping equates the columns that it has bound. -/
theorem delete_of_bindColumns (dialect : Dialect) (options : Options)
    {entries : List (String × Value)} {bound : List (String × String)} {reached : Parameters}
    (isMetadata : type.metadata = .ok metadata) (given : entries ≠ [])
    (ran : bindColumns (columnsOf metadata entries) {} = (.ok bound, reached)) :
    delete dialect type none (some (.mapping (namedEntries entries))) options =
      .ok ({ sql := "DELETE FROM " ++ dialect.tableText (options.tableOr metadata.tableName) ++
              " WHERE " ++ dialect.equations (Association.ofPairs bound)
             parameters := reached.entries
             dialect := dialect.name }, []) := by
  have someColumns : columnsOf metadata entries ≠ [] := by simpa [columnsOf] using given
  have pairsGiven : Association.ofPairs bound ≠ [] := by
    rw [Ne, Association.ofPairs_eq_nil_iff]
    rintro rfl
    exact someColumns (List.map_eq_nil_iff.mp (columns_of_bindColumns ran).symm)
  have membersRan : bindMembers metadata (namedEntries entries) {} = (.ok bound, reached) :=
    (bindMembers_namedEntries metadata entries {}).trans ran
  have written : deleteText dialect metadata none (some (.mapping (namedEntries entries))) options
      {} = (.ok ("DELETE FROM " ++ dialect.tableText (options.tableOr metadata.tableName) ++
        " WHERE " ++ dialect.equations (Association.ofPairs bound), []), reached) := by
    refine (Action.bind_of_ok membersRan).trans ?_
    simp [Dialect.writeDelete, Dialect.chosenCondition, Dialect.equations_ne_empty pairsGiven,
      Dialect.deleteLine_of_ne_empty, pairsGiven, pure, Action.answer]
  exact Fault.bind_eq_ok.mpr ⟨metadata, isMetadata, assemble_eq_ok.mpr ⟨_, _, written, rfl⟩⟩

/-- A DELETE by named keys is read as a condition that is true of the rows in which the
column of each member is equal to the value that is given for it. -/
theorem delete_reads (dialect : Dialect) (entries : List (String × Value)) (options : Options)
    (isMetadata : type.metadata = .ok metadata) (given : entries ≠ [])
    (quoted : ∀ entry ∈ entries,
      dialect.delimiters.IsQuoted (dialect.identifier (metadata.columnNameOf entry.1)))
    (oneValue : ∀ first ∈ entries, ∀ second ∈ entries,
      metadata.columnNameOf first.1 = metadata.columnNameOf second.1 → first.2 = second.2) :
    ∃ compiled restriction condition,
      delete dialect type none (some (.mapping (namedEntries entries))) options =
        .ok (compiled, []) ∧
      compiled.sql = "DELETE FROM " ++ dialect.tableText (options.tableOr metadata.tableName) ++
        " WHERE " ++ restriction ∧
      Sql.read dialect restriction = some condition ∧
      ∀ (database : Database) (row : database.Row), ∃ truth,
        condition.truth database compiled.parameters row = some truth ∧
        (truth = .yes ↔ ∀ entry ∈ entries, database.compare .equal
          (row (dialect.storedColumn (metadata.columnNameOf entry.1))) (database.ofValue entry.2) =
            .yes) := by
  have someColumns : columnsOf metadata entries ≠ [] := by simpa [columnsOf] using given
  obtain ⟨bound, reached, ran⟩ := bindColumns_answers (columnsOf metadata entries) {}
  obtain ⟨condition, isRead, means⟩ := read_bound dialect ran someColumns
    (List.forall_mem_map.mpr quoted)
    (by simpa only [columnsOf, List.forall_mem_map] using oneValue)
  exact ⟨_, _, condition, delete_of_bindColumns dialect options isMetadata given ran, rfl, isRead,
    fun database row => by
      simpa only [columnsOf, List.forall_mem_map] using means database row⟩

end Statement

namespace Work

open Statement (scope)

variable {dialect : Dialect} {metadata : Metadata} {options : Options} {type : EntityType}
variable {entries : List (String × Value)} {first : Predicate} {rest : List Predicate}
variable {parameters reached : Parameters} {text name : String} {value : Value} {column : Column}

/-! ## Rows found by keys -/

/-- Whether a datum is the value of a key.  Null is tested for. -/
def keyTruth (database : Database) (datum : Option database.Datum) : Value → Truth
  | .null => database.isNull datum
  | value => database.compare .equal datum (database.ofValue value)

/-- Nothing is equal to null. -/
theorem compare_eq_yes_iff {database : Database} {datum : Option database.Datum} :
    database.compare .equal datum (database.ofValue value) = .yes ↔
      keyTruth database datum value = .yes ∧ value ≠ .null := by
  cases value with
  | null =>
      rw [database.ofValue_null]
      cases datum <;> simp [Database.compare]
  | _ => simp [keyTruth]

theorem column_of_mapped (dialect : Dialect)
    (mapped : (metadata.find? name).any (·.notMapped) = false) :
    (scope dialect metadata).column (.text name) =
      .ok (dialect.identifier (metadata.columnNameOf name)) := by
  simp [scope, Scope.column, Scope.columnOf, mapped, Except.map, Dialect.columnText]

/-- The test of a key, with the value that is given for it. -/
def keyEquality (entries : List (String × Value)) (column : Column) : Predicate :=
  .test (.text column.name) .equal ((Association.find entries column.name).getD .null)

theorem render_keyEquality (dialect : Dialect) (entries : List (String × Value))
    (mapped : (metadata.find? column.name).any (·.notMapped) = false) (parameters : Parameters) :
    ∃ text reached, (scope dialect metadata).render (keyEquality entries column) parameters =
      (.ok text, reached) := by
  obtain ⟨text, reached, ran⟩ : ∃ text reached,
      (scope dialect metadata).compare
        ⟨.text column.name, .equal, (Association.find entries column.name).getD .null⟩ parameters =
          (.ok text, reached) :=
    Scope.compare_answers (column_of_mapped dialect mapped) (fun _ => .inl rfl) parameters
  exact ⟨text, reached, Scope.render_of_compare ⟨_, _, _, rfl, rfl⟩ ran⟩

theorem truth_keyEquality (entries : List (String × Value))
    (mapped : (metadata.find? column.name).any (·.notMapped) = false)
    (quoted : dialect.delimiters.IsQuoted
      (dialect.identifier (metadata.columnNameOf column.name)))
    (database : Database) (row : database.Row) :
    (keyEquality entries column).truth (scope dialect metadata) database row =
      some (keyTruth database (row (dialect.storedColumn (metadata.columnNameOf column.name)))
        ((Association.find entries column.name).getD .null)) := by
  have columnName : (scope dialect metadata).columnName (.text column.name) =
      some (dialect.storedColumn (metadata.columnNameOf column.name)) := by
    rw [Scope.columnName, column_of_mapped dialect mapped, Dialect.identifier_eq_enclose quoted]
    exact Text.Delimiters.contentOf_enclose _ _
  rw [keyEquality, Predicate.truth_test columnName]
  cases (Association.find entries column.name).getD .null <;> rfl

theorem keyTest_namedEntries (found : Association.find entries column.name = some value) :
    keyTest (namedEntries entries) column = .ok (keyEquality entries column) := by
  rw [keyEquality, found, keyTest_of_find?, namedEntries, List.find?_map]
  obtain ⟨entry, isFirst, rfl⟩ := Option.map_eq_some_iff.mp found
  have same : KeyValues.isAbout column.name ∘
      (fun entry : String × Value => (Value.text entry.1, entry.2)) =
        fun entry => entry.1 == column.name :=
    rfl
  rw [same, isFirst]
  rfl

/-- The keys that are given are tested one by one. -/
theorem getByKeys_plan (dialect : Dialect) (options : Options)
    (isMetadata : type.metadata = .ok metadata) (someKeys : metadata.keyColumns ≠ [])
    (given : ∀ column ∈ metadata.keyColumns,
      ∃ value, Association.find entries column.name = some value) :
    ∃ first rest, metadata.keyColumns.map (keyEquality entries) = first :: rest ∧
      (Work.getByKeys (some type) (some (.mapping (namedEntries entries))) options).plan dialect =
        planSingle dialect type (allOf first rest) options := by
  have tested : metadata.keyColumns.mapM (keyTest (namedEntries entries)) =
      .ok (metadata.keyColumns.map (keyEquality entries)) := by
    refine (mapM_congr fun column isKey => ?_).trans List.mapM_pure
    obtain ⟨value, found⟩ := given column isKey
    exact keyTest_namedEntries found
  cases keys : metadata.keyColumns with
  | nil => exact absurd keys someKeys
  | cons first rest =>
      have areKeys : metadata.primaryKey type.name = .ok (first :: rest) := by
        rw [Metadata.primaryKey, keys]
      rw [keys] at tested
      refine ⟨_, _, List.map_cons, ?_⟩
      simp only [Work.plan, KeyValues.required, KeyValues.members, EntityType.given, isMetadata,
        areKeys, tested, List.map_cons, bind, Except.bind]

/-- The conjunction of tests is rendered if each of them is. -/
theorem render_allOf {scope : Scope}
    (renders : ∀ test ∈ first :: rest, ∀ parameters, ∃ text reached,
      scope.render test parameters = (.ok text, reached)) (parameters : Parameters) :
    ∃ text reached, scope.render (allOf first rest) parameters = (.ok text, reached) := by
  induction rest generalizing first with
  | nil => exact renders first (by simp) parameters
  | cons next rest ih =>
      obtain ⟨firstRenders, nextRenders, restRenders⟩ := by
        simpa only [List.forall_mem_cons] using renders
      refine ih (List.forall_mem_cons.mpr ⟨fun parameters => ?_, restRenders⟩)
      obtain ⟨left, middle, leftRan⟩ := firstRenders parameters
      obtain ⟨right, reached, rightRan⟩ := nextRenders middle
      exact ⟨_, reached, Action.bind_eq_ok.mpr ⟨_, _, leftRan,
        Action.bind_eq_ok.mpr ⟨_, _, rightRan, rfl⟩⟩⟩

theorem truth_allOf (scope : Scope) (database : Database) (row : database.Row)
    (first : Predicate) (rest : List Predicate) :
    (allOf first rest).truth scope database row =
      (rest.map (·.truth scope database row)).foldl Sql.bothTruths
        (first.truth scope database row) :=
  Predicate.truth_foldl .conjunction first rest

/-- What is selected where a single row is looked up. -/
def singleRow (metadata : Metadata) (options : Options) : Selection where
  source := .table (options.tableOr metadata.tableName)
  columns := metadata.mappedColumns.map (·.columnName)

/-- The query for a single row has the condition that its predicate is rendered as. -/
theorem planSingle_of_render {predicate : Predicate} (options : Options)
    (isMetadata : type.metadata = .ok metadata)
    (ran : (scope dialect metadata).render predicate {} = (.ok text, reached)) :
    ∃ plan, planSingle dialect type predicate options = .ok plan ∧
      plan.compiled.sql = "SELECT " ++ dialect.selectList (singleRow metadata options) ++
        " FROM " ++ dialect.tableText (options.tableOr metadata.tableName) ++
        " WHERE " ++ text ∧
      plan.compiled.parameters = reached.entries := by
  obtain ⟨_, _, _, _, _, _, _, _, mentions⟩ := Scope.render_gives dialect.style predicate ran
  have given := mentions.nonempty.1
  let selection : Selection := { singleRow metadata options with
    condition := some text
    primaryKeys := metadata.keyColumns.map (·.columnName) }
  have rendered : QueryChain.renderAll (scope dialect metadata) [predicate] {} =
      (.ok [text], reached) :=
    Action.bind_eq_ok.mpr ⟨text, reached, ran, rfl⟩
  have selected : ((Query.start dialect (some type)).filter predicate).chain.selection dialect
      (some type) options {} = (.ok selection, reached) := by
    rw [QueryChain.selection_eq]
    refine Action.ofExcept_bind_eq_ok.mpr ⟨none, rfl, ?_⟩
    refine Action.ofExcept_bind_eq_ok.mpr ⟨metadata, isMetadata, ?_⟩
    exact Action.bind_eq_ok.mpr ⟨[text], reached, rendered, rfl⟩
  have compiles := Query.compile_of_selection ((Query.start dialect (some type)).filter predicate)
    selected rfl
  refine ⟨_, Fault.bind_eq_ok.mpr ⟨_, compiles, rfl⟩, ?_, rfl⟩
  have noWindow : dialect.windowParts selection = [] :=
    dialect.windowParts_of_not_windowed rfl rfl
  change dialect.selectFrom selection (dialect.tableText (options.tableOr metadata.tableName)) = _
  have conditionPart : Dialect.conditionParts selection.condition = ["WHERE " ++ text] := by
    simp [selection, Dialect.conditionParts, given]
  have orderPart : dialect.orderParts selection = [] := rfl
  have joinPart : selection.joins.map dialect.joinClause = [] := rfl
  have columns : dialect.selectList selection = dialect.selectList (singleRow metadata options) := rfl
  rw [Dialect.selectFrom, conditionPart, orderPart, joinPart, noWindow, columns]
  simp [← String.toList_inj]

/-- Tests of members are read together as a condition that is true of the rows of which all of
them are. -/
theorem read_allOf {scope : Scope}
    (ran : scope.render (allOf first rest) parameters = (.ok text, reached))
    (texts : ∀ test ∈ first :: rest, NamesTexts test)
    (quotes : ∀ test ∈ first :: rest, ∀ name ∈ test.memberNames, scope.Quotes name) :
    ∃ condition, Sql.read scope.dialect text = some condition ∧
      ∀ (database : Database) (row : database.Row),
        (∀ test ∈ first :: rest, ∃ truth, test.truth scope database row = some truth) →
        ∃ truth, condition.truth database reached.entries row = some truth ∧
          (truth = .yes ↔
            ∀ test ∈ first :: rest, test.truth scope database row = some .yes) := by
  obtain ⟨firstTexts, restTexts⟩ := List.forall_mem_cons.mp texts
  have expands := (namesTexts_allOf firstTexts restTexts).1
  have allQuotes : ∀ name ∈ (allOf first rest).memberNames, scope.Quotes name := by
    rw [memberNames_allOf, List.forall_mem_append, List.forall_mem_flatMap]
    exact List.forall_mem_cons.mp quotes
  obtain ⟨condition, isRead, means⟩ := Scope.read_of_render ran fun tree isTree => by
    cases expands.symm.trans isTree
    exact allQuotes
  refine ⟨condition, isRead, fun database row known => ?_⟩
  obtain ⟨⟨start, isStart⟩, restKnown⟩ := List.forall_mem_cons.mp known
  obtain ⟨whole, folded, isYes⟩ := Sql.foldl_bothTruths start restKnown
  obtain ⟨truth, isMeaning, isTruth⟩ := means database row []
  have same : (allOf first rest).truth scope database row = some truth := by
    rwa [Predicate.meaning, expands] at isMeaning
  rw [truth_allOf, isStart, folded, Option.some.injEq] at same
  subst same
  refine ⟨whole, by simpa using isTruth, ?_⟩
  rw [isYes, List.forall_mem_cons, isStart, Option.some.injEq]

/-- A look-up by keys is read as a condition that is true of the rows in which the column of
each key is what is given for the key. -/
theorem getByKeys_reads (dialect : Dialect) (entries : List (String × Value)) (options : Options)
    (isMetadata : type.metadata = .ok metadata) (someKeys : metadata.keyColumns ≠ [])
    (given : ∀ column ∈ metadata.keyColumns,
      ∃ value, Association.find entries column.name = some value)
    (mapped : ∀ column ∈ metadata.keyColumns,
      (metadata.find? column.name).any (·.notMapped) = false)
    (quoted : ∀ column ∈ metadata.keyColumns,
      dialect.delimiters.IsQuoted (dialect.identifier (metadata.columnNameOf column.name))) :
    ∃ plan filter condition,
      (Work.getByKeys (some type) (some (.mapping (namedEntries entries))) options).plan dialect =
        .ok plan ∧
      plan.compiled.sql = "SELECT " ++ dialect.selectList (singleRow metadata options) ++
        " FROM " ++ dialect.tableText (options.tableOr metadata.tableName) ++
        " WHERE " ++ filter ∧
      Sql.read dialect filter = some condition ∧
      ∀ (database : Database) (row : database.Row), ∃ truth,
        condition.truth database plan.compiled.parameters row = some truth ∧
        (truth = .yes ↔ ∀ column ∈ metadata.keyColumns, ∃ value,
          Association.find entries column.name = some value ∧
          keyTruth database
            (row (dialect.storedColumn (metadata.columnNameOf column.name))) value = .yes) := by
  obtain ⟨first, rest, tests, planned⟩ := getByKeys_plan dialect options isMetadata someKeys given
  have renders : ∀ test ∈ first :: rest, ∀ parameters, ∃ text reached,
      (scope dialect metadata).render test parameters = (.ok text, reached) := by
    rw [← tests, List.forall_mem_map]
    exact fun column isKey => render_keyEquality dialect entries (mapped column isKey)
  have texts : ∀ test ∈ first :: rest, NamesTexts test := by
    rw [← tests, List.forall_mem_map]
    exact fun column _ => namesTexts_test column.name _
  have quotes : ∀ test ∈ first :: rest, ∀ name ∈ test.memberNames,
      (scope dialect metadata).Quotes name := by
    rw [← tests, List.forall_mem_map]
    intro column isKey name isName text isText
    obtain rfl : name = .text column.name := by
      simpa [keyEquality, Predicate.test, Predicate.memberNames] using isName
    rw [column_of_mapped dialect (mapped column isKey), Except.ok.injEq] at isText
    exact ⟨_, isText ▸ Dialect.identifier_eq_enclose (quoted column isKey)⟩
  obtain ⟨filter, reached, ran⟩ := render_allOf renders {}
  obtain ⟨plan, isPlan, sql_eq, parameters_eq⟩ := planSingle_of_render options isMetadata ran
  obtain ⟨condition, isRead, means⟩ := read_allOf ran texts quotes
  refine ⟨plan, filter, condition, planned.trans isPlan, sql_eq, isRead, fun database row => ?_⟩
  have known (column : Column) (isKey : column ∈ metadata.keyColumns) :=
    truth_keyEquality entries (mapped column isKey) (quoted column isKey) database row
  obtain ⟨truth, isTruth, isYes⟩ := means database row (by
    rw [← tests, List.forall_mem_map]
    exact fun column isKey => ⟨_, known column isKey⟩)
  refine ⟨truth, parameters_eq ▸ isTruth, isYes.trans ?_⟩
  rw [← tests, List.forall_mem_map]
  refine forall₂_congr fun column isKey => ?_
  obtain ⟨value, found⟩ := given column isKey
  simp [known column isKey, found]

/-- Where each key is given once and nothing else is given, what holds of the keys holds of
what is given. -/
theorem forall_keys_iff (metadata : Metadata) (holds : String → Value → Prop)
    (oneEach : (entries.map (·.1)).Nodup)
    (onlyKeys : ∀ name, name ∈ entries.map (·.1) ↔ name ∈ metadata.keyColumns.map (·.name)) :
    (∀ column ∈ metadata.keyColumns, ∃ value,
      Association.find entries column.name = some value ∧ holds column.name value) ↔
      ∀ entry ∈ entries, holds entry.1 entry.2 := by
  constructor
  · intro each entry isEntry
    obtain ⟨column, isKey, named⟩ :=
      List.mem_map.mp ((onlyKeys entry.1).mp (List.mem_map_of_mem isEntry))
    obtain ⟨value, found, holdsValue⟩ := each column isKey
    rw [named, Association.find_of_mem oneEach isEntry, Option.some.injEq] at found
    rwa [named, ← found] at holdsValue
  · intro each column isKey
    obtain ⟨entry, isEntry, named⟩ :=
      List.mem_map.mp ((onlyKeys column.name).mpr (List.mem_map_of_mem isKey))
    exact ⟨entry.2, named ▸ Association.find_of_mem oneEach isEntry, named ▸ each entry isEntry⟩

/-- If each key of a type is given once, and nothing else, rows can be deleted and looked up by
these keys.  Both statements have a condition, and the rows for which that of the DELETE is
true are those for which that of the look-up is, provided that no key is null; otherwise
there are none.  The keys have mapped columns that are written as one quoted identifier, and
keys with the same column are given the same value. -/
theorem deletes_found_rows (dialect : Dialect) (type : EntityType)
    (entries : List (String × Value)) (deletion lookup : Options) {metadata : Metadata}
    (isMetadata : type.metadata = .ok metadata) (someKeys : metadata.keyColumns ≠ [])
    (oneEach : (entries.map (·.1)).Nodup)
    (onlyKeys : ∀ name, name ∈ entries.map (·.1) ↔ name ∈ metadata.keyColumns.map (·.name))
    (mapped : ∀ column ∈ metadata.keyColumns,
      (metadata.find? column.name).any (·.notMapped) = false)
    (quoted : ∀ column ∈ metadata.keyColumns,
      dialect.delimiters.IsQuoted (dialect.identifier (metadata.columnNameOf column.name)))
    (oneValue : ∀ first ∈ entries, ∀ second ∈ entries,
      metadata.columnNameOf first.1 = metadata.columnNameOf second.1 → first.2 = second.2) :
    ∃ compiled plan restriction filter deletes finds,
      Statement.delete dialect type none (some (.mapping (namedEntries entries))) deletion =
        .ok (compiled, []) ∧
      (Work.getByKeys (some type) (some (.mapping (namedEntries entries))) lookup).plan dialect =
        .ok plan ∧
      compiled.sql = "DELETE FROM " ++ dialect.tableText (deletion.tableOr metadata.tableName) ++
        " WHERE " ++ restriction ∧
      plan.compiled.sql = "SELECT " ++ dialect.selectList (singleRow metadata lookup) ++
        " FROM " ++ dialect.tableText (lookup.tableOr metadata.tableName) ++
        " WHERE " ++ filter ∧
      Sql.read dialect restriction = some deletes ∧ Sql.read dialect filter = some finds ∧
      ∀ (database : Database) (row : database.Row), ∃ deleted found,
        deletes.truth database compiled.parameters row = some deleted ∧
        finds.truth database plan.compiled.parameters row = some found ∧
        (deleted = .yes ↔ found = .yes ∧ ∀ entry ∈ entries, entry.2 ≠ .null) := by
  have given : ∀ column ∈ metadata.keyColumns,
      ∃ value, Association.find entries column.name = some value := by
    have each := (forall_keys_iff metadata (fun _ _ => True) oneEach onlyKeys).mpr
      fun _ _ => trivial
    exact fun column isKey => (each column isKey).imp fun _ known => known.1
  have someEntries : entries ≠ [] := by
    rintro rfl
    obtain ⟨column, isKey⟩ := List.exists_mem_of_ne_nil _ someKeys
    obtain ⟨value, found⟩ := given column isKey
    cases found
  have quotedEntries : ∀ entry ∈ entries,
      dialect.delimiters.IsQuoted (dialect.identifier (metadata.columnNameOf entry.1)) := by
    intro entry isEntry
    obtain ⟨column, isKey, named⟩ :=
      List.mem_map.mp ((onlyKeys entry.1).mp (List.mem_map_of_mem isEntry))
    exact named ▸ quoted column isKey
  obtain ⟨compiled, restriction, deletes, isCompiled, compiledText, deletesRead, deletesMean⟩ :=
    Statement.delete_reads dialect entries deletion isMetadata someEntries quotedEntries oneValue
  obtain ⟨plan, filter, finds, isPlan, planText, findsRead, findsMean⟩ :=
    getByKeys_reads dialect entries lookup isMetadata someKeys given mapped quoted
  refine ⟨compiled, plan, restriction, filter, deletes, finds, isCompiled, isPlan, compiledText,
    planText, deletesRead, findsRead, fun database row => ?_⟩
  obtain ⟨deleted, isDeleted, deletedYes⟩ := deletesMean database row
  obtain ⟨found, isFound, foundYes⟩ := findsMean database row
  refine ⟨deleted, found, isDeleted, isFound, ?_⟩
  rw [deletedYes, foundYes, forall_keys_iff metadata (fun name value => keyTruth database
    (row (dialect.storedColumn (metadata.columnNameOf name))) value = .yes) oneEach onlyKeys]
  simp only [compare_eq_yes_iff, forall_and]

/-- Citizens have two keys, which may be given in any order. -/
def citizenMetadata : Metadata where
  name := "Citizen"
  table := some "Citizen"
  columns := [{ name := "Id", key := true }, { name := "SSN", key := true }, { name := "Name" }]

theorem citizenMetadata_keyColumns :
    citizenMetadata.keyColumns =
      [{ name := "Id", key := true }, { name := "SSN", key := true }] := by
  decide

def citizenEntries (ssn : Value) : List (String × Value) := [("SSN", ssn), ("Id", .int 1)]

def citizenDeletion (ssn : Value) : Except Fault (Compiled × List Warning) :=
  Statement.delete ⟨.sqlite, .colon⟩ Samples.citizen none
    (some (.mapping (namedEntries (citizenEntries ssn)))) {}

def citizenLookup (ssn : Value) : Except Fault Plan :=
  (Work.getByKeys (some Samples.citizen) (some (.mapping (namedEntries (citizenEntries ssn))))
    {}).plan ⟨.sqlite, .colon⟩

theorem citizen_deletion_begins :
    "DELETE FROM " ++ Dialect.tableText ⟨.sqlite, .colon⟩
      (({} : Options).tableOr citizenMetadata.tableName) ++ " WHERE " =
        "DELETE FROM \"Citizen\" WHERE " := by
  rfl

theorem citizen_lookup_begins :
    "SELECT " ++ Dialect.selectList ⟨.sqlite, .colon⟩ (singleRow citizenMetadata {}) ++ " FROM " ++
      Dialect.tableText ⟨.sqlite, .colon⟩ (({} : Options).tableOr citizenMetadata.tableName) ++
        " WHERE " = "SELECT \"Id\", \"SSN\", \"Name\" FROM \"Citizen\" WHERE " := by
  rfl

theorem citizen_deleted_as_found :
    ∃ compiled plan restriction filter deletes finds,
      citizenDeletion (.int 5) = .ok (compiled, []) ∧ citizenLookup (.int 5) = .ok plan ∧
      compiled.sql = "DELETE FROM \"Citizen\" WHERE " ++ restriction ∧
      plan.compiled.sql = "SELECT \"Id\", \"SSN\", \"Name\" FROM \"Citizen\" WHERE " ++ filter ∧
      Sql.read ⟨.sqlite, .colon⟩ restriction = some deletes ∧
      Sql.read ⟨.sqlite, .colon⟩ filter = some finds ∧
      ∀ row : Database.wholeNumbers.Row,
        deletes.truth .wholeNumbers compiled.parameters row = some .yes ↔
          finds.truth .wholeNumbers plan.compiled.parameters row = some .yes := by
  have isMetadata : Samples.citizen.metadata = .ok citizenMetadata := rfl
  obtain ⟨compiled, plan, restriction, filter, deletes, finds, isCompiled, isPlan, compiledText,
      planText, deletesRead, findsRead, same⟩ :=
    deletes_found_rows ⟨.sqlite, .colon⟩ Samples.citizen (citizenEntries (.int 5)) {} {} isMetadata
      (by decide) (by decide) (by simp [citizenMetadata_keyColumns, citizenEntries, or_comm]) (by decide)
      (by decide) (by
        simp [citizenEntries]
        decide)
  rw [citizen_deletion_begins] at compiledText
  rw [citizen_lookup_begins] at planText
  refine ⟨compiled, plan, restriction, filter, deletes, finds, isCompiled, isPlan, compiledText,
    planText, deletesRead, findsRead, fun row => ?_⟩
  obtain ⟨deleted, found, isDeleted, isFound, agree⟩ := same .wholeNumbers row
  rw [isDeleted, isFound]
  simpa [citizenEntries] using agree

/-- The row of a citizen without a social security number. -/
def unnumbered : Database.wholeNumbers.Row :=
  fun column => if column = "Id" then some (1 : Int) else none

/-- The citizen without a number is found by these keys, but not deleted by them. -/
theorem unnumbered_found_and_kept :
    ∃ compiled plan deletes finds,
      citizenDeletion .null = .ok (compiled, []) ∧ citizenLookup .null = .ok plan ∧
      compiled.sql = "DELETE FROM \"Citizen\" WHERE " ++ "\"SSN\" = :SSN AND \"Id\" = :Id" ∧
      plan.compiled.sql = "SELECT \"Id\", \"SSN\", \"Name\" FROM \"Citizen\" WHERE " ++
        "(\"Id\" = :p0) AND (\"SSN\" IS NULL)" ∧
      Sql.read ⟨.sqlite, .colon⟩ "\"SSN\" = :SSN AND \"Id\" = :Id" = some deletes ∧
      Sql.read ⟨.sqlite, .colon⟩ "(\"Id\" = :p0) AND (\"SSN\" IS NULL)" = some finds ∧
      deletes.truth .wholeNumbers compiled.parameters unnumbered ≠ some .yes ∧
      finds.truth .wholeNumbers plan.compiled.parameters unnumbered = some .yes := by
  have isMetadata : Samples.citizen.metadata = .ok citizenMetadata := rfl
  have given : ∀ column ∈ citizenMetadata.keyColumns,
      ∃ value, Association.find (citizenEntries .null) column.name = some value := by
    intro column isKey
    rw [← Option.isSome_iff_exists]
    revert column
    decide
  obtain ⟨compiled, restriction, deletes, isCompiled, compiledText, deletesRead, deletesMean⟩ :=
    Statement.delete_reads ⟨.sqlite, .colon⟩ (citizenEntries .null) {} isMetadata (by decide)
      (by decide) (by simp [citizenEntries]; decide)
  obtain ⟨plan, filter, finds, isPlan, planText, findsRead, findsMean⟩ :=
    getByKeys_reads ⟨.sqlite, .colon⟩ (citizenEntries .null) {} isMetadata (by decide) given
      (by decide) (by decide)
  have deletionSeen : (citizenDeletion .null).toOption.map (·.1.sql) =
      some ("DELETE FROM \"Citizen\" WHERE " ++ "\"SSN\" = :SSN AND \"Id\" = :Id") := by
    rfl
  have lookupSeen : (citizenLookup .null).toOption.map (·.compiled.sql) =
      some ("SELECT \"Id\", \"SSN\", \"Name\" FROM \"Citizen\" WHERE " ++
        "(\"Id\" = :p0) AND (\"SSN\" IS NULL)") := by
    rfl
  obtain ⟨_, accepted, deletionText⟩ := Fault.ok_of_seen deletionSeen
  cases isCompiled.symm.trans accepted
  obtain ⟨_, accepted, lookupText⟩ := Fault.ok_of_seen lookupSeen
  cases isPlan.symm.trans accepted
  rw [citizen_deletion_begins] at compiledText
  rw [citizen_lookup_begins] at planText
  obtain rfl := (String.append_right_inj _).mp (compiledText.symm.trans deletionText)
  obtain rfl := (String.append_right_inj _).mp (planText.symm.trans lookupText)
  refine ⟨compiled, plan, deletes, finds, isCompiled, isPlan, compiledText, planText, deletesRead,
    findsRead, ?_, ?_⟩
  · obtain ⟨deleted, isDeleted, isYes⟩ := deletesMean .wholeNumbers unnumbered
    rw [isDeleted, Ne, Option.some.injEq, isYes]
    intro all
    exact (compare_eq_yes_iff.mp (all ("SSN", .null) (by simp [citizenEntries]))).2 rfl
  · obtain ⟨found, isFound, isYes⟩ := findsMean .wholeNumbers unnumbered
    rw [isFound, Option.some.injEq, isYes, citizenMetadata_keyColumns]
    intro column isKey
    rcases List.mem_pair.mp isKey with rfl | rfl
    · exact ⟨.int 1, rfl, rfl⟩
    · exact ⟨.null, rfl, rfl⟩

end Work

end EntitySql
