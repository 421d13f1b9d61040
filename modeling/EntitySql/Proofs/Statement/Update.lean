import EntitySql.Proofs.Statement.Mention
import EntitySql.Proofs.Statement.ReadBack

/-!
# Updated rows

An UPDATE sets the mapped columns that are neither keys nor generated, in the order of
the metadata, each from a parameter with the value of its own member.  By itself it
changes the row with the keys of the entity, which it equates one by one.
-/

namespace EntitySql

/-- The columns that an UPDATE sets. -/
def Metadata.updatedColumns (metadata : Metadata) : List Column :=
  metadata.columns.filter fun column => !column.notMapped && !column.key && !column.isGenerated

namespace Statement

variable {dialect : Dialect} {entity : Instance} {options : Options} {metadata : Metadata}
  {parameters reached : Parameters} {table : String} {columns : List Column}
  {names : List String} {pairs : List (String × String)}

/-- Columns, each equated with the placeholder of its parameter. -/
def columnEquations (dialect : Dialect) (columns : List Column) (names : List String) :
    List String :=
  List.zipWith (fun column name =>
    dialect.identifier column.columnName ++ " = " ++ dialect.placeholder name) columns names

/-! ## Rows of columns -/

/-- Columns with the values that an entity has for them. -/
def rowValues (entity : Instance) (columns : List Column) : List (String × Value) :=
  columns.map fun column => (column.columnName, entity.get column.name)

theorem updatedColumns_eq (metadata : Metadata) :
    metadata.updatedColumns =
      metadata.mappedColumns.filter fun column => !(column.key || column.isGenerated) := by
  rw [Metadata.updatedColumns, Metadata.mappedColumns, List.filter_filter]
  congr 1
  funext column
  cases column.notMapped <;> cases column.key <;> simp

theorem updatedColumns_sublist (metadata : Metadata) :
    metadata.updatedColumns.Sublist metadata.mappedColumns := by
  rw [updatedColumns_eq]
  exact List.filter_sublist

theorem updatedValues_eq (metadata : Metadata) (entity : Instance) :
    updatedValues metadata entity = rowValues entity metadata.updatedColumns := by
  simp [updatedValues, rowValues, updatedColumns_eq, Metadata.valuesOf, List.filter_map,
    Function.comp_def]

theorem keyColumns_eq (metadata : Metadata) :
    metadata.keyColumns = metadata.columns.filter fun column => !column.notMapped && column.key := by
  simp [Metadata.keyColumns, Metadata.mappedColumns, List.filter_filter, Bool.and_comm]

theorem bindColumns_answers (values : List (String × Value)) (parameters : Parameters) :
    ∃ pairs reached, bindColumns values parameters = (.ok pairs, reached) := by
  obtain ⟨names, reached, ran, _⟩ := bindColumns_run values parameters
  exact ⟨_, reached, ran⟩

/-- The columns that are bound, if all of them have different names, with their parameters. -/
theorem row_of_bindColumns (different : (columns.map (·.columnName)).Nodup)
    (ran : bindColumns (rowValues entity columns) parameters = (.ok pairs, reached)) :
    ∃ names, names.length = columns.length ∧
      parameters.Grows reached (names.zip (columns.map (entity.get ·.name))) ∧
      (∀ name ∈ names, (Sql.Operand.parameter name).Readable) ∧
      Association.ofPairs pairs = (columns.map (·.columnName)).zip names := by
  obtain ⟨names, last, bindRan, length_eq, grows⟩ :=
    bindColumns_run (rowValues entity columns) parameters
  have readable := readable_of_bindColumns ran
  rw [ran] at bindRan
  cases bindRan
  simp only [rowValues, List.map_map, List.length_map, Function.comp_def] at length_eq grows readable ⊢
  refine ⟨names, length_eq, grows, fun name isName => ?_, Association.ofPairs_of_nodup ?_⟩
  · have zipped : ((columns.map (·.columnName)).zip names).map (·.2) = names :=
      List.map_snd_zip (by simp [length_eq])
    rw [← zipped] at isName
    obtain ⟨pair, isPair, rfl⟩ := List.mem_map.mp isName
    exact readable pair isPair
  · rwa [List.map_fst_zip (by simp [length_eq])]

theorem equations_of_row (dialect : Dialect) (columns : List Column) (names : List String) :
    ((columns.map (·.columnName)).zip names).map dialect.equation =
      columnEquations dialect columns names := by
  rw [columnEquations, List.zip_map_left, List.map_map, ← List.map_uncurry_zip_eq_zipWith]
  rfl

theorem ofRow_ne_nil (length_eq : names.length = columns.length) (given : columns ≠ []) :
    (columns.map (·.columnName)).zip names ≠ [] := by
  rw [← List.length_pos_iff, List.length_zip, List.length_map, length_eq, Nat.min_self]
  exact List.length_pos_iff.mpr given

/-! ## The text of an UPDATE -/

/-- The SELECT that reads a row back by some of its columns, behind the UPDATE of the row. -/
def readBackSuffix (dialect : Dialect) (table : String) (columns : List Column)
    (names : List String) : String :=
  if columns.isEmpty then ""
  else
    "; SELECT * FROM " ++ dialect.tableText table ++ " WHERE " ++
      " AND ".intercalate (columnEquations dialect columns names)

theorem readBackSuffix_of_given (names : List String) (given : columns ≠ []) :
    readBackSuffix dialect table columns names =
      "; SELECT * FROM " ++ dialect.tableText table ++ " WHERE " ++
        " AND ".intercalate (columnEquations dialect columns names) := by
  rw [readBackSuffix, if_neg (by simpa using given)]

theorem writeUpdate_rows {pairs : List (String × String)} {condition : Option String}
    {restriction : String} (wanted : Bool) {keys : List Column} {keyNames : List String}
    (chosen : Dialect.chosenCondition condition (dialect.equations pairs) = restriction)
    (given : restriction ≠ "") (length_eq : keyNames.length = keys.length) :
    dialect.writeUpdate table ((columns.map (·.columnName)).zip names) pairs wanted
        ((keys.map (·.columnName)).zip keyNames) condition =
      "UPDATE " ++ dialect.tableText table ++ " SET " ++
        ", ".intercalate (columnEquations dialect columns names) ++ " WHERE " ++ restriction ++
        if wanted then readBackSuffix dialect table keys keyNames else "" := by
  have suffix : (if wanted && !((keys.map (·.columnName)).zip keyNames).isEmpty then
        "; " ++ dialect.selectWhole table
          (dialect.equations ((keys.map (·.columnName)).zip keyNames))
      else "") = if wanted then readBackSuffix dialect table keys keyNames else "" := by
    by_cases someKeys : keys = []
    · subst someKeys
      cases wanted <;> rfl
    · have pairsGiven := ofRow_ne_nil length_eq someKeys
      have selected : "; " ++ dialect.selectWhole table
            (dialect.equations ((keys.map (·.columnName)).zip keyNames)) =
          readBackSuffix dialect table keys keyNames := by
        rw [Dialect.selectWhole_eq _ _ (Dialect.equations_ne_empty pairsGiven),
          Dialect.equations, equations_of_row, readBackSuffix_of_given keyNames someKeys]
        simp [← String.toList_inj]
      rw [List.isEmpty_eq_false_iff.mpr pairsGiven, Bool.not_false, Bool.and_true, selected]
  rw [Dialect.writeUpdate, suffix, chosen, equations_of_row, Dialect.updateLine,
    Dialect.whereSuffix, if_neg (by simpa using given)]
  simp [← String.toList_inj]

/-! ## UPDATE by the keys of a row -/

theorem update_of_fault {condition : Option Predicate} {fault : Fault}
    (isMetadata : entity.type.metadata = .ok metadata)
    (ran : updateText dialect metadata entity condition options {} = (.error fault, reached)) :
    update dialect entity condition options = .error fault :=
  assembled_of_fault isMetadata ran

/-- Without keys, or without a column to set, no row can be updated by its keys. -/
theorem update_refused (isMetadata : entity.type.metadata = .ok metadata)
    (lacking : metadata.keyColumns = [] ∨ metadata.updatedColumns = []) :
    ∃ cause, update dialect entity none options = .error (.configuration cause) := by
  by_cases noKeys : metadata.keyColumns = []
  · have failed : updateText dialect metadata entity none options {} =
        (.error (.configuration (.noKeysForUpdate metadata.name entity.type.name)), {}) := by
      simp only [updateText, noKeys]
      rfl
    exact ⟨_, update_of_fault isMetadata failed⟩
  · have nothing : metadata.updatedColumns = [] := lacking.resolve_left noKeys
    obtain ⟨names, middle, ran, length_eq, _⟩ :=
      bindColumns_run (updatedValues metadata entity) {}
    rw [updatedValues_eq, nothing] at ran length_eq
    have failed : updateText dialect metadata entity none options {} =
        (.error (.configuration (.nothingToUpdate metadata.name entity.type.name)), middle) := by
      simp only [updateText, Option.isNone_none, Bool.true_and, List.isEmpty_iff]
      rw [if_neg noKeys, updatedValues_eq, nothing, Action.bind_of_ok ran]
      rfl
    exact ⟨_, update_of_fault isMetadata failed⟩

theorem keyColumns_sublist (metadata : Metadata) :
    metadata.keyColumns.Sublist metadata.mappedColumns :=
  List.filter_sublist

/-- With keys and columns to set, the values are bound first and the keys behind them. -/
theorem update_by_keys_run (dialect : Dialect) (options : Options)
    (isMetadata : entity.type.metadata = .ok metadata)
    (different : (metadata.mappedColumns.map (·.columnName)).Nodup)
    (someKeys : metadata.keyColumns ≠ []) (someColumns : metadata.updatedColumns ≠ []) :
    ∃ assigned tested reached,
      assigned.length = metadata.updatedColumns.length ∧
      tested.length = metadata.keyColumns.length ∧
      ({} : Parameters).Grows reached
        (assigned.zip (metadata.updatedColumns.map (entity.get ·.name)) ++
          tested.zip (metadata.keyColumns.map (entity.get ·.name))) ∧
      let table := options.tableOr metadata.tableName
      let restriction := " AND ".intercalate (columnEquations dialect metadata.keyColumns tested)
      update dialect entity none options = .ok {
        sql := "UPDATE " ++ dialect.tableText table ++ " SET " ++
          ", ".intercalate (columnEquations dialect metadata.updatedColumns assigned) ++
          " WHERE " ++ restriction ++
          if options.selectAfterMutation then
            readBackSuffix dialect table metadata.keyColumns tested
          else ""
        parameters := reached.entries
        dialect := dialect.name } := by
  obtain ⟨assignments, middle, assignedRan⟩ := bindColumns_answers (updatedValues metadata entity) {}
  obtain ⟨pairs, reached, testedRan⟩ := bindColumns_answers (keyValues metadata entity) middle
  have distinct {columns : List Column} (part : columns.Sublist metadata.mappedColumns) :
      (columns.map (·.columnName)).Nodup :=
    different.sublist (part.map _)
  have assignedRow := assignedRan
  rw [updatedValues_eq] at assignedRow
  obtain ⟨assigned, assignedLength, assignedGrows, _, assignedPairs⟩ :=
    row_of_bindColumns (distinct (updatedColumns_sublist metadata)) assignedRow
  obtain ⟨tested, testedLength, testedGrows, _, testedPairs⟩ :=
    row_of_bindColumns (distinct (keyColumns_sublist metadata)) testedRan
  refine ⟨assigned, tested, reached, assignedLength, testedLength,
    assignedGrows.trans testedGrows, ?_⟩
  have nonempty := ofRow_ne_nil testedLength someKeys
  have assignedGiven := ofRow_ne_nil assignedLength someColumns
  rw [← assignedPairs, Ne, Association.ofPairs_eq_nil_iff] at assignedGiven
  refine update_of_run isMetadata (updateText_keys_eq_ok.mpr
    ⟨assignments, middle, pairs, someKeys, assignedGiven, assignedRan, testedRan, ?_⟩)
  rw [assignedPairs, testedPairs]
  refine (writeUpdate_rows options.selectAfterMutation ?_ ?_ testedLength).symm
  · rw [Dialect.chosenCondition, Dialect.equations, equations_of_row]
  · rw [← equations_of_row]
    exact Dialect.equations_ne_empty nonempty

/-- An UPDATE without a condition fails as a matter of configuration exactly for types without
keys or without a column to set.  For all others it sets the mapped columns that are neither
keys nor generated, in the order of the metadata, and is restricted by one equation for each
key.  Every parameter holds the value of the member of its column and has a name of its own.
The SELECT behind it, if it is wanted, has the same condition. -/
theorem update_by_keys_exact (dialect : Dialect) (entity : Instance) (options : Options)
    {metadata : Metadata} (isMetadata : entity.type.metadata = .ok metadata)
    (different : (metadata.mappedColumns.map (·.columnName)).Nodup) :
    let updated := metadata.columns.filter fun column =>
      !column.notMapped && !column.key && !column.isGenerated
    let keys := metadata.columns.filter fun column => !column.notMapped && column.key
    ((∃ cause, update dialect entity none options = .error (.configuration cause)) ↔
      keys = [] ∨ updated = []) ∧
    (keys ≠ [] → updated ≠ [] → ∃ compiled assigned tested,
      update dialect entity none options = .ok compiled ∧
      assigned.length = updated.length ∧ tested.length = keys.length ∧
      (let table := dialect.tableText (options.tableOr metadata.tableName)
       let restriction := " AND ".intercalate (columnEquations dialect keys tested)
       compiled.sql = "UPDATE " ++ table ++ " SET " ++
          ", ".intercalate (columnEquations dialect updated assigned) ++
          " WHERE " ++ restriction ++
          if options.selectAfterMutation then
            "; SELECT * FROM " ++ table ++ " WHERE " ++ restriction
          else "") ∧
      compiled.parameters =
        (assigned ++ tested).zip ((updated ++ keys).map (entity.get ·.name)) ∧
      (assigned ++ tested).Nodup) := by
  rw [← keyColumns_eq]
  change ((∃ cause, update dialect entity none options = .error (.configuration cause)) ↔
      metadata.keyColumns = [] ∨ metadata.updatedColumns = []) ∧
    (metadata.keyColumns ≠ [] → metadata.updatedColumns ≠ [] → _)
  have accepted (someKeys : metadata.keyColumns ≠ []) (someColumns : metadata.updatedColumns ≠ []) :=
    update_by_keys_run dialect options isMetadata different someKeys someColumns
  refine ⟨⟨?_, update_refused isMetadata⟩, fun someKeys someColumns => ?_⟩
  · rintro ⟨cause, failed⟩
    by_contra bothGiven
    rw [not_or] at bothGiven
    obtain ⟨_, _, _, _, _, _, compiles⟩ := accepted bothGiven.1 bothGiven.2
    cases failed.symm.trans compiles
  · obtain ⟨assigned, tested, reached, assignedLength, testedLength, grows, compiles⟩ :=
      accepted someKeys someColumns
    have entries : reached.entries = (assigned ++ tested).zip
        ((metadata.updatedColumns ++ metadata.keyColumns).map (entity.get ·.name)) := by
      rw [grows.1, List.map_append, List.zip_append (by simp [assignedLength])]
      rfl
    refine ⟨_, assigned, tested, compiles, assignedLength, testedLength, ?_, entries, ?_⟩
    · rw [readBackSuffix_of_given tested someKeys]
      rfl
    · have nodup : (reached.entries.map (·.1)).Nodup := grows.2 List.nodup_nil
      rwa [entries, List.map_fst_zip (by simp [assignedLength, testedLength])] at nodup

/-- Parcels with two keys, the first of which asks for the parameter of their note. -/
def parcel : EntityType where
  name := "Parcel"
  shape := .bare
  mapping := .declared {
    columns := [{ name := "Note", column := some "lot_no" },
      { name := "Lot", column := some "lot no", key := true },
      { name := "Part", key := true, generated := .identity },
      { name := "Weighed", generated := .computed }, { name := "Draft", notMapped := true }] }

def parcelRow : Instance :=
  ⟨parcel, [("Lot", .int 7), ("Part", .int 3), ("Note", .text "fragile"), ("Draft", .bool true)]⟩

/-- The parcel is updated by both of its keys and read back, while entries of a log without
keys are refused. -/
theorem parcel_updated :
    (∃ (compiled : Compiled) (assigned tested : List String),
      update ⟨.sqlite, .colon⟩ parcelRow none { selectAfterMutation := true } = .ok compiled ∧
      compiled.sql = "UPDATE \"Parcel\" SET \"lot_no\" = :lot_no " ++
        "WHERE \"lot no\" = :lot_no_1 AND \"Part\" = :Part; " ++
        "SELECT * FROM \"Parcel\" WHERE \"lot no\" = :lot_no_1 AND \"Part\" = :Part" ∧
      compiled.parameters =
        (assigned ++ tested).zip [.text "fragile", .int 7, .int 3] ∧
      (assigned ++ tested).Nodup) ∧
    ∃ cause, update ⟨.sqlite, .colon⟩ ⟨Samples.auditEntry, [("Message", .text "a")]⟩ none {} =
      .error (.configuration cause) := by
  have seen : (update ⟨.sqlite, .colon⟩ parcelRow none
      { selectAfterMutation := true }).toOption.map (·.sql) = some
        ("UPDATE \"Parcel\" SET \"lot_no\" = :lot_no " ++
          "WHERE \"lot no\" = :lot_no_1 AND \"Part\" = :Part; " ++
          "SELECT * FROM \"Parcel\" WHERE \"lot no\" = :lot_no_1 AND \"Part\" = :Part") := by
    rfl
  obtain ⟨compiled, accepted, sql_eq⟩ := Fault.ok_of_seen seen
  have ofParcel : parcelRow.type.metadata = .ok ⟨"Parcel", none, _⟩ := rfl
  have ofEntry : Samples.auditEntry.metadata = .ok ⟨"AuditEntry", none, _⟩ := rfl
  obtain ⟨-, exact⟩ := update_by_keys_exact ⟨.sqlite, .colon⟩ parcelRow
    { selectAfterMutation := true } ofParcel (by decide)
  obtain ⟨again, assigned, tested, compiles, _, _, _, parameters, nodup⟩ :=
    exact (by decide) (by decide)
  cases accepted.symm.trans compiles
  refine ⟨⟨compiled, assigned, tested, accepted, sql_eq, parameters, nodup⟩, ?_⟩
  exact (update_by_keys_exact ⟨.sqlite, .colon⟩ ⟨Samples.auditEntry, [("Message", .text "a")]⟩ {}
    ofEntry (by decide)).1.mpr (.inl (by decide))

end Statement

end EntitySql
