import EntitySql.Proofs.Statement.Binding
import Mathlib.Data.List.Zip

/-!
# Inserted rows

An INSERT stores the mapped columns that the database does not generate, in the order of
the metadata, each with the value of its own member.
-/

namespace EntitySql

open Sql (Mention)

/-- The columns that an INSERT stores. -/
def Metadata.storedColumns (metadata : Metadata) : List Column :=
  metadata.columns.filter fun column => !column.notMapped && !column.isGenerated

namespace Statement

variable {dialect : Dialect} {entity : Instance} {options : Options} {compiled : Compiled}

theorem insertedValues_eq (metadata : Metadata) (entity : Instance) :
    insertedValues metadata entity =
      metadata.storedColumns.map fun column => (column.columnName, entity.get column.name) := by
  simp [insertedValues, Metadata.valuesOf, Metadata.mappedColumns, Metadata.storedColumns,
    List.filter_map, List.filter_filter, Function.comp_def, Bool.and_comm]

theorem insert_eq_ok (accepted : insert dialect entity options = .ok compiled) :
    ∃ metadata sql reached, entity.type.metadata = .ok metadata ∧
      insertText dialect metadata entity options {} = (.ok sql, reached) ∧
      compiled = { sql, parameters := reached.entries, dialect := dialect.name } :=
  assembled_eq_ok accepted

/-- What is written behind an INSERT to read its row back, and what is bound for it. -/
inductive ReadBack (dialect : Dialect) (table : String) (options : Options)
    (keys : List EntityKey) : String → List (String × Value) → Prop where
  | none (unwanted : (options.selectAfterMutation && !keys.isEmpty) = false) :
      ReadBack dialect table options keys "" []
  | row {compared : List Mention} {added : List (String × Value)}
      (wanted : (options.selectAfterMutation && !keys.isEmpty) = true)
      (areReadBack : List.Forall₂ (IsReadBack table) keys compared) :
      ReadBack dialect table options keys
        ("; " ++ dialect.selectWhole table
          (" AND ".intercalate (List.zipWith (readBackText dialect) keys compared))) added

/-- An INSERT binds one parameter for each stored column, and then what the row is to be
read back with.  Which parameters it binds does not depend on the dialect. -/
theorem insertText_runs (metadata : Metadata) (entity : Instance) :
    ∃ names stored, names.length = metadata.storedColumns.length ∧
      ({} : Parameters).Grows stored
        (names.zip (metadata.storedColumns.map (entity.get ·.name))) ∧
      (∀ name ∈ names, (Sql.Operand.parameter name).Readable) ∧
      ∀ options : Options, let table := options.tableOr metadata.tableName
        let columns := metadata.storedColumns.map (·.columnName)
        let keys := metadata.entityKeys entity
        ((options.selectAfterMutation && !keys.isEmpty) = false → ∀ dialect,
          insertText dialect metadata entity options {} =
            (.ok (dialect.writeInsert table columns names), stored)) ∧
        ((options.selectAfterMutation && !keys.isEmpty) = true → ∃ compared reached added,
          (∀ dialect, insertText dialect metadata entity options {} =
            (.ok (dialect.writeInsert table columns names ++ "; " ++ dialect.selectWhole table
              (" AND ".intercalate (List.zipWith (readBackText dialect) keys compared))),
              reached)) ∧
          stored.Grows reached added ∧
          List.Forall₂ (Finds table (Association.ofPairs (columns.zip names)) stored reached) keys
            compared) := by
  obtain ⟨names, stored, bindRan, length_eq, grows⟩ :=
    bindColumns_run (insertedValues metadata entity) {}
  rw [insertedValues_eq] at bindRan length_eq grows
  simp only [List.map_map, Function.comp_def, List.length_map] at bindRan length_eq grows
  have zipped_columns : ((metadata.storedColumns.map (·.columnName)).zip names).map (·.1) =
      metadata.storedColumns.map (·.columnName) :=
    List.map_fst_zip (by simp [length_eq])
  have zipped_names : ((metadata.storedColumns.map (·.columnName)).zip names).map (·.2) = names :=
    List.map_snd_zip (by simp [length_eq])
  have readable : ∀ name ∈ names, (Sql.Operand.parameter name).Readable := by
    have each := readable_of_bindColumns bindRan
    rw [← zipped_names]
    exact List.forall_mem_map.mpr each
  refine ⟨names, stored, length_eq, grows, readable, fun options =>
    ⟨fun unwanted dialect => ?_, ?_⟩⟩
  · rw [insertText, insertedValues_eq, Action.bind_of_ok bindRan, zipped_columns, zipped_names,
      if_neg (ne_true_of_eq_false unwanted)]
    rfl
  · intro wanted
    obtain ⟨compared, reached, added, termsRan, later, areFound⟩ :=
      readBackTerms_run (options.tableOr metadata.tableName)
        (Association.ofPairs ((metadata.storedColumns.map (·.columnName)).zip names))
        (metadata.entityKeys entity) stored
    refine ⟨compared, reached, added, fun dialect => ?_, later, areFound⟩
    rw [insertText, insertedValues_eq, Action.bind_of_ok bindRan, zipped_columns, zipped_names,
      if_pos wanted]
    exact Action.bind_of_ok (termsRan dialect)

/-- The row is inserted with one parameter for each stored column. -/
theorem insertText_run {metadata : Metadata} {sql : String} {reached : Parameters}
    (ran : insertText dialect metadata entity options {} = (.ok sql, reached)) :
    ∃ names readBack added,
      sql = dialect.writeInsert (options.tableOr metadata.tableName)
        (metadata.storedColumns.map (·.columnName)) names ++ readBack ∧
      names.length = metadata.storedColumns.length ∧
      ({} : Parameters).Grows reached
        (names.zip (metadata.storedColumns.map (entity.get ·.name)) ++ added) ∧
      ReadBack dialect (options.tableOr metadata.tableName) options (metadata.entityKeys entity)
        readBack added := by
  obtain ⟨names, stored, length_eq, grows, _, runs⟩ := insertText_runs metadata entity
  cases wanted : options.selectAfterMutation && !(metadata.entityKeys entity).isEmpty with
  | false =>
      cases ((runs options).1 wanted dialect).symm.trans ran
      exact ⟨names, "", [], by simp, length_eq, by simpa using grows, .none wanted⟩
  | true =>
      obtain ⟨compared, last, added, termsRan, later, areFound⟩ := (runs options).2 wanted
      cases (termsRan dialect).symm.trans ran
      exact ⟨names, _, added, String.append_assoc, length_eq, grows.trans later,
        .row wanted (areFound.imp fun _ _ finds => finds.isReadBack)⟩

/-- An INSERT lists the mapped columns that are not generated, in the order of the
metadata, and one placeholder for each of them, whose parameter holds the value of the
member of that column.  All parameters have different names, and without a column to
store the row takes its defaults.  Further parameters come with the row that is read back. -/
theorem insert_binds_stored_columns (dialect : Dialect) (entity : Instance) (options : Options)
    (compiled : Compiled) (accepted : insert dialect entity options = .ok compiled) :
    ∃ metadata names readBack added, entity.type.metadata = .ok metadata ∧
      let table := options.tableOr metadata.tableName
      let stored := metadata.columns.filter fun column => !column.notMapped && !column.isGenerated
      (stored ≠ [] → compiled.sql = "INSERT INTO " ++ dialect.tableText table ++ " (" ++
        ", ".intercalate (stored.map fun column => dialect.identifier column.columnName) ++
        ") VALUES (" ++ ", ".intercalate (names.map dialect.placeholder) ++ ")" ++ readBack) ∧
      (stored = [] → compiled.sql =
        "INSERT INTO " ++ dialect.tableText table ++ " DEFAULT VALUES" ++ readBack) ∧
      List.Forall₂ (fun column name =>
        Association.find compiled.parameters name = some (entity.get column.name)) stored names ∧
      (compiled.parameters.map (·.1)).Nodup ∧
      compiled.parameters.map (·.1) = names ++ added.map (·.1) ∧
      ReadBack dialect table options (metadata.entityKeys entity) readBack added := by
  obtain ⟨metadata, sql, reached, isMetadata, ran, rfl⟩ := insert_eq_ok accepted
  obtain ⟨names, readBack, added, rfl, length_eq, ⟨entries, keepsNodup⟩, isReadBack⟩ :=
    insertText_run ran
  rw [show ({} : Parameters).entries = [] from rfl, List.nil_append] at entries
  have nodup : (reached.entries.map (·.1)).Nodup := keepsNodup List.nodup_nil
  have values_length : names.length = (metadata.storedColumns.map (entity.get ·.name)).length := by
    simp [length_eq]
  refine ⟨metadata, names, readBack, added, isMetadata, ?_, ?_, ?_, nodup, ?_, isReadBack⟩
  · intro given
    have someColumn : metadata.storedColumns ≠ [] := given
    rw [Dialect.writeInsert, Dialect.insertLine, if_neg (by simpa using someColumn)]
    simp [Metadata.storedColumns, Function.comp_def]
  · intro none
    have noColumn : metadata.storedColumns = [] := none
    simp [Dialect.writeInsert, Dialect.insertLine, noColumn]
  · rw [List.forall₂_iff_zip]
    refine ⟨length_eq.symm, fun {column name} member => ?_⟩
    apply Association.find_of_mem nodup
    rw [entries]
    apply List.mem_append_left
    have swapped : (name, column) ∈ names.zip metadata.storedColumns := by
      rw [← List.zip_swap]
      exact List.mem_map.mpr ⟨_, member, rfl⟩
    rw [List.zip_map_right]
    exact List.mem_map.mpr ⟨_, swapped, rfl⟩
  · rw [entries, List.map_append, List.map_fst_zip (Nat.le_of_eq values_length)]

/-- A type with columns whose parameters ask for the same name. -/
def crowded : EntityType where
  name := "Crowded"
  shape := .bare
  mapping := .declared {
    columns := [{ name := "Id", key := true, generated := .identity },
      { name := "first", column := some "a b" }, { name := "second", column := some "a-b" },
      { name := "hidden", notMapped := true }, { name := "third", column := some "a_b_1" }] }

def crowdedRow : Instance :=
  ⟨crowded, [("first", .int 1), ("second", .int 2), ("third", .int 3), ("hidden", .int 4)]⟩

/-- The row with its identity read back. -/
def crowdedInsert : Except Fault Compiled :=
  insert ⟨.sqlite, .colon⟩ crowdedRow { selectAfterMutation := true }

theorem crowdedInsert_sql :
    crowdedInsert.toOption.map (·.sql) = some
      ("INSERT INTO \"Crowded\" (\"a b\", \"a-b\", \"a_b_1\") " ++
        "VALUES (:a_b, :a_b_1, :a_b_1_1); " ++
        "SELECT * FROM \"Crowded\" WHERE \"Id\" = last_insert_rowid()") := by
  decide

theorem crowded_binds_stored_columns :
    ∃ compiled names, crowdedInsert = .ok compiled ∧ (compiled.parameters.map (·.1)).Nodup ∧
      List.Forall₂ (fun value name => Association.find compiled.parameters name = some value)
        [.int 1, .int 2, .int 3] names := by
  obtain ⟨compiled, accepted, _⟩ := Fault.ok_of_seen crowdedInsert_sql
  obtain ⟨metadata, names, _, _, isMetadata, _, _, bound, nodup, _⟩ :=
    insert_binds_stored_columns _ crowdedRow _ compiled accepted
  cases isMetadata
  have values : List.Forall₂
      (fun value name => Association.find compiled.parameters name = some value)
      ([{ name := "first", column := some "a b" }, { name := "second", column := some "a-b" },
        { name := "third", column := some "a_b_1" }].map fun column : Column =>
          crowdedRow.get column.name) names := by
    rw [List.forall₂_map_left_iff]
    exact bound
  exact ⟨compiled, names, accepted, nodup, values⟩

end Statement

end EntitySql
