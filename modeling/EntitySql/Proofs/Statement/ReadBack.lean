import EntitySql.Proofs.Statement.Insert

/-!
# The row behind an INSERT

An INSERT may read its row back by its keys.  The row is found by what the INSERT itself
put there: a key that the database numbers by the identity just generated, any other key
by the parameter stored in its column.  A key that the database computes is in neither
way known, and is compared with whatever the entity holds for it.
-/

namespace EntitySql

namespace Dialect

theorem windowParts_of_not_windowed (dialect : Dialect) {selection : Selection}
    (skip : selection.skip = none) (take : selection.take = none) :
    dialect.windowParts selection = [] := by
  simp only [windowParts, Selection.isWindowed, skip, take]
  cases dialect.backend <;> rfl

theorem selectWhole_eq (dialect : Dialect) (table : String) {condition : String}
    (given : condition ≠ "") :
    dialect.selectWhole table condition =
      "SELECT * FROM " ++ dialect.tableText table ++ " WHERE " ++ condition := by
  have noWindow : dialect.windowParts { source := .table table, condition := some condition } = [] :=
    dialect.windowParts_of_not_windowed rfl rfl
  simp [selectWhole, selectFrom, selectList, orderParts, conditionParts, noWindow, given,
    ← String.toList_inj]

/-- No placeholder looks like an identity that the database is asked for. -/
theorem placeholder_ne_identityExpression (dialect : Dialect) (name table column : String) :
    dialect.placeholder name ≠ dialect.identityExpression table column := by
  intro same
  have first : (dialect.placeholder name).toList.head? =
      (dialect.identityExpression table column).toList.head? := by
    rw [same]
  obtain ⟨backend, style⟩ := dialect
  cases style <;> cases backend <;>
    simp [placeholder, PlaceholderStyle.render, identityExpression] at first

end Dialect

namespace Statement

variable {dialect : Dialect} {entity : Instance} {options : Options} {metadata : Metadata}
  {table value : String} {names : List String} {key column : Column}

/-- What the row that an INSERT stored is known by: a generated key by the expression for its
value, any other key by the parameter stored in its column. -/
inductive FindsStored (dialect : Dialect) (table : String) (stored : List (Column × String))
    (key : Column) : String → Prop where
  | generated (isGenerated : key.isGenerated = true) :
      FindsStored dialect table stored key (dialect.identityExpression table key.columnName)
  | stored {name : String} (plain : key.isGenerated = false) (isStored : (key, name) ∈ stored) :
      FindsStored dialect table stored key (dialect.placeholder name)

/-- The key of a column of an entity. -/
def keyOf (entity : Instance) (column : Column) : EntityKey :=
  ⟨column.columnName, entity.get column.name, column.isIdentity⟩

theorem entityKeys_eq_map (metadata : Metadata) (entity : Instance) :
    metadata.entityKeys entity = metadata.keyColumns.map (keyOf entity) :=
  rfl

theorem mem_mapped_of_stored (isStored : column ∈ metadata.storedColumns) :
    column ∈ metadata.mappedColumns ∧ column.isGenerated = false := by
  simp only [Metadata.storedColumns, List.mem_filter, Bool.and_eq_true, Bool.not_eq_true'] at isStored
  simp [Metadata.mappedColumns, isStored]

theorem stored_of_mapped (isMapped : column ∈ metadata.mappedColumns)
    (plain : column.isGenerated = false) : column ∈ metadata.storedColumns := by
  simp only [Metadata.mappedColumns, List.mem_filter] at isMapped
  simpa [Metadata.storedColumns, isMapped.1, plain] using isMapped.2

section Lookup

variable (different : (metadata.mappedColumns.map (·.columnName)).Nodup)
  (length_eq : names.length = metadata.storedColumns.length)

include different in
theorem nodup_storedColumns : (metadata.storedColumns.map (·.columnName)).Nodup := by
  have sub : metadata.storedColumns.Sublist metadata.mappedColumns := by
    have filtered : metadata.storedColumns =
        metadata.mappedColumns.filter fun column => !column.isGenerated := by
      simp [Metadata.storedColumns, Metadata.mappedColumns, List.filter_filter, Bool.and_comm]
    rw [filtered]
    exact List.filter_sublist
  exact different.sublist (sub.map _)

include different length_eq in
/-- The parameters of the stored columns, by the names of the columns. -/
theorem ofPairs_stored :
    Association.ofPairs ((metadata.storedColumns.map (·.columnName)).zip names) =
      (metadata.storedColumns.map (·.columnName)).zip names := by
  refine Association.ofPairs_of_nodup ?_
  rw [List.map_fst_zip (by simp [length_eq])]
  exact nodup_storedColumns different

include different length_eq in
/-- Under the name of a mapped column stands the parameter stored in that very column. -/
theorem stored_of_find {name : String} (isMapped : key ∈ metadata.mappedColumns)
    (found : Association.find
      (Association.ofPairs ((metadata.storedColumns.map (·.columnName)).zip names))
      key.columnName = some name) :
    (key, name) ∈ metadata.storedColumns.zip names := by
  rw [ofPairs_stored different length_eq] at found
  have isPair := Association.mem_of_find found
  rw [List.zip_map_left] at isPair
  obtain ⟨⟨column, other⟩, isStored, same⟩ := List.mem_map.mp isPair
  obtain ⟨sameName, rfl⟩ := Prod.mk.inj same
  have isColumn : column ∈ metadata.mappedColumns :=
    (mem_mapped_of_stored (List.of_mem_zip isStored).1).1
  have sameColumn : column = key := List.inj_on_of_nodup_map different isColumn isMapped sameName
  exact sameColumn ▸ isStored

include length_eq in
theorem generated_of_not_found (isMapped : key ∈ metadata.mappedColumns)
    (missing : Association.find
      (Association.ofPairs ((metadata.storedColumns.map (·.columnName)).zip names))
      key.columnName = none) :
    key.isGenerated = true := by
  by_contra plain
  have isStored := stored_of_mapped isMapped (by simpa using plain)
  have present : Association.has
      (Association.ofPairs ((metadata.storedColumns.map (·.columnName)).zip names))
      key.columnName = true := by
    rw [Association.has_iff_mem, Association.mem_keys_ofPairs,
      List.map_fst_zip (by simp [length_eq])]
    exact List.mem_map_of_mem isStored
  rw [Association.has_eq_isSome, missing] at present
  cases present

end Lookup

theorem not_findsStored_placeholder {stored : List (Column × String)} {name : String}
    (isGenerated : key.isGenerated = true) :
    ¬ FindsStored dialect table stored key (dialect.placeholder name) := by
  intro finds
  generalize compared : dialect.placeholder name = value at finds
  cases finds with
  | generated => exact dialect.placeholder_ne_identityExpression _ _ _ compared
  | stored plain => simp [isGenerated] at plain

/-- What a key is compared with that the database computes: a parameter that holds the
entity's own value, and that the INSERT stores in no column. -/
def ComparesOwn (dialect : Dialect) (parameters : Association String Value) (names : List String)
    (held : Value) (value : String) : Prop :=
  ∃ name, value = dialect.placeholder name ∧ name ∉ names ∧
    Association.find parameters name = some held

/-- A key is compared with what the INSERT stored for it, unless it is computed. -/
theorem findsStored_of_finds {stored reached : Parameters} {compared : Sql.Mention}
    (different : (metadata.mappedColumns.map (·.columnName)).Nodup)
    (length_eq : names.length = metadata.storedColumns.length)
    (stored_names : stored.names = names) (nodup : reached.names.Nodup)
    (isMapped : key ∈ metadata.mappedColumns)
    (finds : Finds table
      (Association.ofPairs ((metadata.storedColumns.map (·.columnName)).zip names)) stored reached
      (keyOf entity key) compared) :
    (FindsStored dialect table (metadata.storedColumns.zip names) key (compared.text dialect) ↔
      key.generated ≠ .computed) ∧
    (key.generated = .computed →
      ComparesOwn dialect reached.entries names (entity.get key.name) (compared.text dialect)) := by
  cases finds with
  | identity generated =>
      have isIdentity : key.generated = .identity := by simpa [keyOf, Column.isIdentity] using generated
      have isGenerated : key.isGenerated = true := by simp [Column.isGenerated, isIdentity]
      simp only [isIdentity]
      exact ⟨iff_of_true (.generated isGenerated) (by decide), nofun⟩
  | stored _ found =>
      have isStored := stored_of_find different length_eq isMapped found
      have plain := (mem_mapped_of_stored (List.of_mem_zip isStored).1).2
      have notGenerated : key.generated = .none := by simpa [Column.isGenerated] using plain
      simp only [notGenerated]
      exact ⟨iff_of_true (.stored plain isStored) (by decide), nofun⟩
  | own plain missing fresh holds _ =>
      have isGenerated := generated_of_not_found length_eq isMapped missing
      have computed : key.generated = .computed := by
        cases mode : key.generated <;>
          simp_all [Column.isGenerated, Column.isIdentity, keyOf]
      refine ⟨iff_of_false (not_findsStored_placeholder isGenerated) (by simp [computed]), fun _ => ?_⟩
      exact ⟨_, rfl, stored_names ▸ fresh, Association.find_of_mem nodup holds⟩

/-- An INSERT that reads its row back is the plain INSERT with a SELECT behind it, whose
condition has one equality for each key in the order of the keys.  The keys are compared
with what that INSERT stored for them, all but those that the database computes: these are
compared with a parameter of their own. -/
theorem insert_reads_back (dialect : Dialect) (entity : Instance) (options : Options)
    (metadata : Metadata) (isMetadata : entity.type.metadata = .ok metadata)
    (different : (metadata.mappedColumns.map (·.columnName)).Nodup)
    (hasKeys : metadata.keyColumns ≠ []) (wanted : options.selectAfterMutation = true) :
    ∃ insertion compiled names values,
      insert dialect entity { options with selectAfterMutation := false } = .ok insertion ∧
      insert dialect entity options = .ok compiled ∧
      let table := options.tableOr metadata.tableName
      let stored := metadata.columns.filter fun column => !column.notMapped && !column.isGenerated
      insertion.sql = dialect.writeInsert table (stored.map (·.columnName)) names ∧
      insertion.parameters = names.zip (stored.map (entity.get ·.name)) ∧
      names.length = stored.length ∧
      compiled.sql = insertion.sql ++ "; SELECT * FROM " ++ dialect.tableText table ++ " WHERE " ++
        " AND ".intercalate (List.zipWith
          (fun key value => dialect.identifier key.columnName ++ " = " ++ value)
          metadata.keyColumns values) ∧
      (∃ added, compiled.parameters = insertion.parameters ++ added) ∧
      (compiled.parameters.map (·.1)).Nodup ∧
      List.Forall₂ (fun key value =>
        (FindsStored dialect table (stored.zip names) key value ↔ key.generated ≠ .computed) ∧
        (key.generated = .computed →
          ComparesOwn dialect compiled.parameters names (entity.get key.name) value))
        metadata.keyColumns values := by
  obtain ⟨names, stored, length_eq, grows, _, runs⟩ := insertText_runs metadata entity
  have someKeys : (metadata.entityKeys entity).isEmpty = false := by
    simpa [entityKeys_eq_map] using hasKeys
  obtain ⟨compared, reached, added, termsRun, later, areFound⟩ :=
    (runs options).2 (by simp [wanted, someKeys])
  have plainRun := (runs { options with selectAfterMutation := false }).1 (by simp) dialect
  have nodup : reached.names.Nodup := (grows.trans later).2 List.nodup_nil
  have stored_names : stored.names = names := by
    rw [Parameters.names, grows.1, show ({} : Parameters).entries = [] from rfl, List.nil_append,
      List.map_fst_zip (by simp [length_eq])]
  have nonempty : " AND ".intercalate
      (List.zipWith (readBackText dialect) (metadata.entityKeys entity) compared) ≠ "" :=
    readBack_ne_empty (areFound.imp fun _ _ finds => finds.isReadBack) (by simpa using someKeys)
  rw [entityKeys_eq_map, List.forall₂_map_left_iff] at areFound
  refine ⟨_, _, names, compared.map (·.text dialect), assembled_of_run isMetadata plainRun,
    assembled_of_run isMetadata (termsRun dialect), rfl, ?_, length_eq, ?_, ⟨added, later.1⟩,
    nodup, ?_⟩
  · exact grows.1
  · have texts : List.zipWith (readBackText dialect) (metadata.entityKeys entity) compared =
        List.zipWith (fun key value => dialect.identifier key.columnName ++ " = " ++ value)
          metadata.keyColumns (compared.map (·.text dialect)) := by
      rw [entityKeys_eq_map, List.zipWith_map_left, List.zipWith_map_right]
      rfl
    have spliced (rest : String) : "; " ++ ("SELECT * FROM " ++ rest) = "; SELECT * FROM " ++ rest := by
      simp [← String.toList_inj]
    rw [Dialect.selectWhole_eq _ _ nonempty, texts]
    simp only [String.append_assoc, spliced]
    rfl
  · rw [List.forall₂_map_right_iff, List.forall₂_iff_zip]
    refine ⟨areFound.length_eq, fun {key compared} isPair => ?_⟩
    have isMapped : key ∈ metadata.mappedColumns := by
      have isKey := (List.of_mem_zip isPair).1
      exact (List.mem_filter.mp isKey).1
    exact findsStored_of_finds different length_eq stored_names nodup isMapped
      ((List.forall₂_iff_zip.mp areFound).2 isPair)

/-- The seats of a hall, which the database numbers. -/
def seatColumns : List Column :=
  [{ name := "Number", key := true, generated := .identity },
    { name := "hall", column := some "Hall No", key := true }, { name := "guest" }]

def seat : Instance :=
  ⟨{ name := "Seat", shape := .bare, mapping := .declared { columns := seatColumns } },
    [("Number", .int 0), ("hall", .int 7), ("guest", .text "Ann")]⟩

def seatInsert : Except Fault Compiled :=
  insert ⟨.postgres .lowerSnake, .atSign⟩ seat { selectAfterMutation := true }

theorem seat_reads_back :
    ∃ compiled names values, seatInsert = .ok compiled ∧
      compiled.sql = "INSERT INTO \"seat\" (\"hall_no\", \"guest\") VALUES (@Hall_No, @guest); " ++
        "SELECT * FROM \"seat\" WHERE " ++
        "\"number\" = currval(pg_get_serial_sequence('\"seat\"', 'number')) AND " ++
        "\"hall_no\" = @Hall_No" ∧
      List.Forall₂ (FindsStored ⟨.postgres .lowerSnake, .atSign⟩ "Seat"
          ((seatColumns.filter (!·.isGenerated)).zip names))
        (seatColumns.filter (·.key)) values := by
  have seen : seatInsert.toOption.map (·.sql) = some
      ("INSERT INTO \"seat\" (\"hall_no\", \"guest\") VALUES (@Hall_No, @guest); " ++
        "SELECT * FROM \"seat\" WHERE " ++
        "\"number\" = currval(pg_get_serial_sequence('\"seat\"', 'number')) AND " ++
        "\"hall_no\" = @Hall_No") := by
    decide +kernel
  obtain ⟨compiled, accepted, sql_eq⟩ := Fault.ok_of_seen seen
  obtain ⟨_, other, names, values, _, again, _, _, _, _, _, _, found⟩ :=
    insert_reads_back ⟨.postgres .lowerSnake, .atSign⟩ seat { selectAfterMutation := true }
      { name := "Seat", columns := seatColumns } rfl (by decide) (by decide) rfl
  refine ⟨compiled, names, values, accepted, sql_eq, ?_⟩
  have notComputed : ∀ key ∈ seatColumns, key.generated ≠ .computed := by decide
  have isKey : ∀ key ∈ seatColumns.filter (·.key), key ∈ seatColumns :=
    fun key member => List.mem_of_mem_filter member
  rw [List.forall₂_iff_zip] at found ⊢
  exact ⟨found.1, fun {key value} isPair =>
    (found.2 isPair).1.mpr (notComputed key (isKey key (List.of_mem_zip isPair).1))⟩

/-- Vouchers, whose codes the database computes. -/
def voucherColumns : List Column :=
  [{ name := "Code", key := true, generated := .computed }, { name := "Title" }]

def voucher : Instance :=
  ⟨{ name := "Voucher", shape := .bare, mapping := .declared { columns := voucherColumns } },
    [("Code", .null), ("Title", .text "a")]⟩

def voucherInsert : Except Fault Compiled :=
  insert ⟨.sqlite, .colon⟩ voucher { selectAfterMutation := true }

/-- The code is compared with what the entity holds for it, not with what was inserted. -/
theorem voucher_not_found :
    ∃ compiled, voucherInsert = .ok compiled ∧
      compiled.sql = "INSERT INTO \"Voucher\" (\"Title\") VALUES (:Title); " ++
        "SELECT * FROM \"Voucher\" WHERE \"Code\" = :Code" ∧
      ∀ key ∈ voucherColumns.filter (·.key), ¬ FindsStored ⟨.sqlite, .colon⟩ "Voucher"
        ((voucherColumns.filter (!·.isGenerated)).zip ["Title"]) key ":Code" := by
  have seen : voucherInsert.toOption.map (·.sql) = some
      ("INSERT INTO \"Voucher\" (\"Title\") VALUES (:Title); " ++
        "SELECT * FROM \"Voucher\" WHERE \"Code\" = :Code") := by
    decide
  obtain ⟨compiled, accepted, sql_eq⟩ := Fault.ok_of_seen seen
  refine ⟨compiled, accepted, sql_eq, fun key isKey => ?_⟩
  have allGenerated : ∀ key ∈ voucherColumns.filter (·.key), key.isGenerated = true := by decide
  have written : ":Code" = Dialect.placeholder ⟨.sqlite, .colon⟩ "Code" := by decide
  rw [written]
  exact not_findsStored_placeholder (allGenerated key isKey)

end Statement

end EntitySql
