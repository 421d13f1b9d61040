import EntitySql.Proofs.Statement.Keys

/-!
# The conditions of a DELETE by keys

Each key of a mapping is resolved to a column and bound to a parameter.  What is equated are
columns, each of them once: keys that name a member and its column as well leave one
condition, and the parameter of the other is left behind.
-/

namespace EntitySql

/-- Where one of the names is that of a member, the column of the member is not named as
well, unless it is the name of a member itself. -/
def Metadata.NamesApart (metadata : Metadata) (names : List String) : Prop :=
  ∀ name ∈ names, ∀ column ∈ metadata.find? name, column.columnName ∈ names →
    (metadata.find? column.columnName).isSome = true

instance (metadata : Metadata) (names : List String) : Decidable (metadata.NamesApart names) :=
  List.decidableBAll _ names

namespace Metadata

variable {metadata : Metadata} {names others : List String} {name other : String}
variable {column : Column}

theorem NamesApart.perm (apart : metadata.NamesApart names) (reordered : names.Perm others) :
    metadata.NamesApart others := fun name isName column found isColumn =>
  apart name (reordered.mem_iff.mpr isName) column found (reordered.mem_iff.mpr isColumn)

theorem columnNameOf_of_find (found : metadata.find? name = some column) :
    metadata.columnNameOf name = column.columnName := by
  rw [columnNameOf, found]

theorem columnNameOf_of_missing (missing : metadata.find? name = none) :
    metadata.columnNameOf name = name := by
  rw [columnNameOf, missing]

/-- The member that a column is found by. -/
theorem name_of_find (found : metadata.find? name = some column) : column.name = name :=
  beq_iff_eq.mp (List.find?_some found :)

/-- A member and a column that is no member have different columns, if they are apart. -/
theorem NamesApart.columnNameOf_ne (apart : metadata.NamesApart names) (isName : name ∈ names)
    (isOther : other ∈ names) (found : metadata.find? name = some column)
    (missing : metadata.find? other = none) :
    metadata.columnNameOf name ≠ metadata.columnNameOf other := by
  rw [columnNameOf_of_find found, columnNameOf_of_missing missing]
  rintro rfl
  have isMember := apart name isName column found isOther
  rw [missing] at isMember
  cases isMember

/-- Different names are resolved to different columns exactly if they are apart. -/
theorem nodup_columns_iff (distinct : (metadata.columns.map (·.columnName)).Nodup)
    (nodup : names.Nodup) :
    (names.map metadata.columnNameOf).Nodup ↔ metadata.NamesApart names := by
  constructor
  · intro different name isName column found isColumn
    cases missing : metadata.find? column.columnName with
    | some _ => rfl
    | none =>
        have same : metadata.columnNameOf name = metadata.columnNameOf column.columnName := by
          rw [columnNameOf_of_find found, columnNameOf_of_missing missing]
        have isSame := List.inj_on_of_nodup_map different isName isColumn same
        rw [← isSame, found] at missing
        cases missing
  · intro apart
    refine List.Nodup.map_on (fun first isFirst second isSecond same => ?_) nodup
    cases firstFound : metadata.find? first with
    | some column =>
        cases secondFound : metadata.find? second with
        | some other =>
            rw [columnNameOf_of_find firstFound, columnNameOf_of_find secondFound] at same
            have sameColumn := List.inj_on_of_nodup_map distinct
              (List.mem_of_find?_eq_some firstFound) (List.mem_of_find?_eq_some secondFound) same
            rw [← name_of_find firstFound, ← name_of_find secondFound, sameColumn]
        | none =>
            exact absurd same (apart.columnNameOf_ne isFirst isSecond firstFound secondFound)
    | none =>
        cases secondFound : metadata.find? second with
        | some other =>
            exact absurd same.symm (apart.columnNameOf_ne isSecond isFirst secondFound firstFound)
        | none =>
            rwa [columnNameOf_of_missing firstFound, columnNameOf_of_missing secondFound] at same

end Metadata

namespace Statement

/-- A DELETE of the rows that have these values in these columns.  Each column is equated
with a parameter of its own, which holds the value, and there are no other parameters. -/
def DeletesWhere (dialect : Dialect) (table : String) (conditions : List (String × Value))
    (compiled : Compiled) : Prop :=
  ∃ pairs : List (String × String), pairs.map (·.1) = conditions.map (·.1) ∧
    (pairs.map (·.2)).Nodup ∧
    compiled.parameters = (pairs.map (·.2)).zip (conditions.map (·.2)) ∧
    compiled.sql = "DELETE FROM " ++ dialect.tableText table ++ " WHERE " ++
      " AND ".intercalate (pairs.map dialect.equation)

variable {metadata : Metadata} {type : EntityType} {entries : List (String × Value)}

theorem columns_columnsOf (metadata : Metadata) (entries : List (String × Value)) :
    (columnsOf metadata entries).map (·.1) = (entries.map (·.1)).map metadata.columnNameOf := by
  simp [columnsOf, Function.comp_def]

/-- What a DELETE by the keys of a mapping binds, and the columns that it equates. -/
theorem delete_equates (dialect : Dialect) (options : Options)
    (isMetadata : type.metadata = .ok metadata) (given : entries ≠ []) :
    ∃ compiled pairs,
      delete dialect type none (some (.mapping (namedEntries entries))) options =
        .ok (compiled, []) ∧
      pairs.map (·.1) = (columnsOf metadata entries).map (·.1) ∧ (pairs.map (·.2)).Nodup ∧
      compiled.parameters = (pairs.map (·.2)).zip ((columnsOf metadata entries).map (·.2)) ∧
      compiled.sql = "DELETE FROM " ++ dialect.tableText (options.tableOr metadata.tableName) ++
        " WHERE " ++ dialect.equations (Association.ofPairs pairs) := by
  obtain ⟨names, reached, ran, length_eq, entries_eq, distinct⟩ :=
    bindColumns_run (columnsOf metadata entries) {}
  have areNames : (((columnsOf metadata entries).map (·.1)).zip names).map (·.2) = names :=
    List.map_snd_zip (by simp [length_eq])
  have nodup : names.Nodup := by
    have keys := distinct List.nodup_nil
    rwa [Parameters.names, entries_eq, List.nil_append,
      List.map_fst_zip (by simp [length_eq])] at keys
  exact ⟨_, _, delete_of_bindColumns dialect options isMetadata given ran,
    columns_of_bindColumns ran, areNames.symm ▸ nodup, areNames.symm ▸ entries_eq, rfl⟩

/-- Keys that are apart are all conditions of the DELETE. -/
theorem delete_deletesWhere (dialect : Dialect) (options : Options)
    (isMetadata : type.metadata = .ok metadata)
    (distinctColumns : (metadata.columns.map (·.columnName)).Nodup)
    (distinctKeys : (entries.map (·.1)).Nodup) (given : entries ≠ [])
    (apart : metadata.NamesApart (entries.map (·.1))) :
    ∃ compiled,
      delete dialect type none (some (.mapping (namedEntries entries))) options =
        .ok (compiled, []) ∧
      DeletesWhere dialect (options.tableOr metadata.tableName) (columnsOf metadata entries)
        compiled := by
  obtain ⟨compiled, pairs, accepted, columns_eq, nodup, parameters_eq, sql_eq⟩ :=
    delete_equates dialect options isMetadata given
  have different : (pairs.map (·.1)).Nodup := by
    rw [columns_eq, columns_columnsOf]
    exact (Metadata.nodup_columns_iff distinctColumns distinctKeys).mpr apart
  rw [Association.ofPairs_of_nodup different] at sql_eq
  exact ⟨compiled, accepted, pairs, columns_eq, nodup, parameters_eq, sql_eq⟩

/-- If columns have different names, a DELETE by the keys of a mapping has one condition for
each key that restricts the column of the key to its value, provided that no key names the
column of a member that another key names.  In another order the keys give the same
conditions in that order. -/
theorem delete_keeps_conditions (dialect : Dialect) (entries : List (String × Value))
    (options : Options) (isMetadata : type.metadata = .ok metadata)
    (distinctColumns : (metadata.columns.map (·.columnName)).Nodup)
    (distinctKeys : (entries.map (·.1)).Nodup) (given : entries ≠ [])
    (apart : metadata.NamesApart (entries.map (·.1))) :
    ∃ compiled,
      delete dialect type none (some (.mapping (namedEntries entries))) options =
        .ok (compiled, []) ∧
      DeletesWhere dialect (options.tableOr metadata.tableName) (columnsOf metadata entries)
        compiled ∧
      ∀ reordered, entries.Perm reordered → ∃ other conditions,
        delete dialect type none (some (.mapping (namedEntries reordered))) options =
          .ok (other, []) ∧
        DeletesWhere dialect (options.tableOr metadata.tableName) conditions other ∧
        (columnsOf metadata entries).Perm conditions := by
  obtain ⟨compiled, accepted, deletes⟩ :=
    delete_deletesWhere dialect options isMetadata distinctColumns distinctKeys given apart
  refine ⟨compiled, accepted, deletes, fun reordered isReordered => ?_⟩
  have sameKeys := isReordered.map (·.1)
  have stillGiven : reordered ≠ [] := fun empty => given (empty ▸ isReordered).eq_nil
  obtain ⟨other, otherAccepted, otherDeletes⟩ := delete_deletesWhere dialect options isMetadata
    distinctColumns (sameKeys.nodup distinctKeys) stillGiven (apart.perm sameKeys)
  exact ⟨other, _, otherAccepted, otherDeletes, isReordered.map _⟩

/-- Keys that are not apart are all bound, but not all of them are conditions. -/
theorem delete_drops_conditions (dialect : Dialect) (options : Options)
    (isMetadata : type.metadata = .ok metadata)
    (distinctColumns : (metadata.columns.map (·.columnName)).Nodup)
    (distinctKeys : (entries.map (·.1)).Nodup)
    (together : ¬metadata.NamesApart (entries.map (·.1))) :
    ∃ compiled kept,
      delete dialect type none (some (.mapping (namedEntries entries))) options =
        .ok (compiled, []) ∧
      compiled.sql = "DELETE FROM " ++ dialect.tableText (options.tableOr metadata.tableName) ++
        " WHERE " ++ dialect.equations kept ∧
      compiled.parameters.length = entries.length ∧ kept.length < entries.length := by
  have given : entries ≠ [] := by
    rintro rfl
    exact together nofun
  obtain ⟨compiled, pairs, accepted, columns_eq, nodup, parameters_eq, sql_eq⟩ :=
    delete_equates dialect options isMetadata given
  have count : pairs.length = entries.length := by
    simpa [columnsOf] using congrArg List.length columns_eq
  have twice : ¬(pairs.map (·.1)).Nodup := by
    rw [columns_eq, columns_columnsOf, Metadata.nodup_columns_iff distinctColumns distinctKeys]
    exact together
  have lost := Association.length_ofPairs_lt twice
  rw [count] at lost
  exact ⟨compiled, _, accepted, sql_eq, by simp [parameters_eq, columnsOf, count], lost⟩

/-- A widget by all its members, one of which has a column of another name. -/
def widgetEntries : List (String × Value) :=
  [("Price", .float "2.5"), ("DisplayName", .text "gear"), ("Id", .int 1)]

theorem widget_keeps_conditions :
    ∃ compiled,
      delete ⟨.sqlite, .colon⟩ Samples.widget none (some (.mapping (namedEntries widgetEntries))) =
        .ok (compiled, []) ∧
      DeletesWhere ⟨.sqlite, .colon⟩ "dbo.Widgets"
        [("Price", .float "2.5"), ("display_name", .text "gear"), ("Id", .int 1)] compiled := by
  have isMetadata : Samples.widget.metadata = .ok _ := rfl
  obtain ⟨compiled, accepted, deletes, _⟩ :=
    delete_keeps_conditions ⟨.sqlite, .colon⟩ widgetEntries {} isMetadata (by decide) (by decide)
      (by decide) (by decide)
  exact ⟨compiled, accepted, deletes⟩

/-- A widget by a member and by the column of the member. -/
theorem widget_condition_dropped :
    ∃ compiled,
      delete ⟨.sqlite, .colon⟩ Samples.widget none (some (.mapping (namedEntries
        [("DisplayName", .text "gear"), ("display_name", .text "cog")]))) = .ok (compiled, []) ∧
      compiled.sql =
        "DELETE FROM \"dbo\".\"Widgets\" WHERE \"display_name\" = :display_name_1" ∧
      compiled.parameters = [("display_name", .text "gear"), ("display_name_1", .text "cog")] :=
  ⟨_, rfl, rfl, rfl⟩

end Statement

end EntitySql
