import EntitySql.Dialect.Identifier
import EntitySql.Proofs.Entity.Row
import EntitySql.Proofs.Text.SnakeCase
import Mathlib.Data.List.Flatten

/-!
# Rows under stored names

A SELECT of all columns names them as they are stored, folded by the dialect, and not as
they are declared.  A mapped member gets its value back exactly if the stored name, without
its underscores and in small letters, is still that of the column or of the member itself.
-/

namespace EntitySql

open Text (smallForm isSeparator isKept)

/-- The name under which the database knows a column that is not quoted already. -/
def Column.storedName (dialect : Dialect) (column : Column) : String :=
  dialect.fold column.columnName

/-! ## The matching form of a stored name -/

theorem matchingForm_of_noSigma {name : String}
    (noSigma : 'Σ' ∉ name.toList.filter (· != '_')) :
    (matchingForm name).toList = (name.toList.filter (· != '_')).flatMap smallForm := by
  rw [matchingForm, Text.lowercase, String.toList_ofList, String.toList_ofList,
    Text.lowercaseAfter_of_noSigma [] noSigma]

theorem matchingForm_lowercase {name : String} (noSigma : 'Σ' ∉ name.toList) :
    matchingForm (Text.lowercase name) = matchingForm name := by
  have small : (Text.lowercase name).toList = name.toList.flatMap smallForm := by
    rw [Text.lowercase, String.toList_ofList, Text.lowercaseAfter_of_noSigma [] noSigma]
  have letters := fun isLetter => noSigma (List.mem_of_mem_filter (p := (· != '_')) isLetter)
  have stillNone : 'Σ' ∉ (Text.lowercase name).toList.filter (· != '_') := by
    intro isLetter
    rw [small] at isLetter
    obtain ⟨c, _, member⟩ := List.mem_flatMap.mp (List.mem_of_mem_filter isLetter)
    exact (Text.isSmall_of_mem_smallForm member).ne_capitalSigma rfl
  rw [← String.toList_inj, matchingForm_of_noSigma stillNone, matchingForm_of_noSigma letters,
    small, Text.filter_flatMap_smallForm, List.flatMap_assoc]
  exact List.flatMap_congr fun c _ => Text.smallForm_smallForm c

theorem matchingForm_snakeCase (name : String) :
    (matchingForm (Text.snakeCase name)).toList =
      (name.toList.filter isKept).flatMap smallForm := by
  have noSigma := Text.noSigma_filter_snakeCaseAfter false name.toList
  rw [matchingForm_of_noSigma (by rwa [Text.snakeCase, String.toList_ofList]), Text.snakeCase,
    String.toList_ofList, Text.flatMap_filter_snakeCaseAfter]

/-- Whatever is taken out of a text is missing in its small form. -/
theorem forall_of_flatMap_filter_eq {text : List Char} {keeps : Char → Bool}
    (same : (text.filter keeps).flatMap smallForm = text.flatMap smallForm) :
    ∀ c ∈ text, keeps c = true := by
  induction text with
  | nil => simp
  | cons c rest ih =>
      cases kept : keeps c with
      | true =>
          rw [List.filter_cons_of_pos kept, List.flatMap_cons, List.flatMap_cons,
            List.append_cancel_left_eq] at same
          exact List.forall_mem_cons.mpr ⟨kept, ih same⟩
      | false =>
          rw [List.filter_cons_of_neg (by simp [kept]), List.flatMap_cons] at same
          have length_eq := congrArg List.length same
          have shorter := (List.filter_sublist (p := keeps) (l := rest)).flatMap smallForm
          have length_le := shorter.length_le
          have given := List.length_pos_iff.mpr (Text.smallForm_ne_nil c)
          rw [List.length_append] at length_eq
          omega

/-- Without a capital sigma, folding leaves the matching form as it is unless it writes
underscores for other characters. -/
theorem matchingForm_fold_iff (dialect : Dialect) {name : String} (noSigma : 'Σ' ∉ name.toList) :
    matchingForm (dialect.fold name) = matchingForm name ↔
      (dialect.folding = .lowerSnake → ∀ c ∈ name.toList, isSeparator c = false) := by
  unfold Dialect.fold
  cases dialect.folding with
  | keep => simp [Folding.apply]
  | lower => simp [Folding.apply, matchingForm_lowercase noSigma]
  | lowerSnake =>
      have letters := fun isLetter => noSigma (List.mem_of_mem_filter (p := (· != '_')) isLetter)
      have kept : name.toList.filter isKept =
          (name.toList.filter (· != '_')).filter (!isSeparator ·) := by
        rw [List.filter_filter]
        exact List.filter_congr fun c _ => Bool.and_comm ..
      rw [Folding.apply, ← String.toList_inj, matchingForm_snakeCase,
        matchingForm_of_noSigma letters, kept]
      constructor
      · intro same _ c member
        by_cases underscore : c = '_'
        · subst underscore
          decide
        · have notTaken := forall_of_flatMap_filter_eq same c
            (List.mem_filter.mpr ⟨member, by simpa using underscore⟩)
          simpa using notTaken
      · intro noSeparator
        congr 1
        rw [List.filter_eq_self]
        intro c member
        simp [noSeparator rfl c (List.mem_of_mem_filter member)]

theorem matchingForm_fold_of_plain (dialect : Dialect) {name : String}
    (plain : 'Σ' ∉ name.toList ∧ name.toList.all (!isSeparator ·) = true) :
    matchingForm (dialect.fold name) = matchingForm name :=
  (matchingForm_fold_iff dialect plain.1).mpr fun _ c member => by
    simpa using List.all_eq_true.mp plain.2 c member

/-! ## Rows -/

namespace Metadata

variable {metadata : Metadata} {type : EntityType} {dialect : Dialect} {row : Row}
variable {entity : Instance} {column : Column} {construct : Constructor}
variable {accepts : String → Value → Prop} {untouched : Association String Value}

/-- The form in which a row has a stored column. -/
def storedForm (dialect : Dialect) (column : Column) : String :=
  matchingForm (column.storedName dialect)

theorem form_storedName (dialect : Dialect) (column : Column) (value : Value) :
    Row.form (.text (column.storedName dialect), value) = storedForm dialect column :=
  form_text _ _

/-- Up to case and underscores, no stored name is that of two columns, and none is the
column name or the member name of another column. -/
structure StoresApart (metadata : Metadata) (dialect : Dialect) : Prop where
  distinct : (metadata.mappedColumns.map (storedForm dialect)).Nodup
  others : ∀ column ∈ metadata.mappedColumns, ∀ other ∈ metadata.mappedColumns, other ≠ column →
    storedForm dialect column ≠ matchingForm other.columnName ∧
      storedForm dialect column ≠ matchingForm other.name

/-- A row of the whole table: one value for each stored column, in any order. -/
def StoredIn (metadata : Metadata) (dialect : Dialect) (row : Row) : Prop :=
  (row.map (·.1)).Perm (metadata.mappedColumns.map fun column => .text (column.storedName dialect))

/-- A row whose values are accepted by the members of their columns. -/
def AdmitsStored (metadata : Metadata) (dialect : Dialect) (accepts : String → Value → Prop)
    (row : Row) : Prop :=
  ∀ column ∈ metadata.mappedColumns, ∀ value,
    (.text (column.storedName dialect), value) ∈ row → accepts column.name value

/-- Every mapped member has the value of its own column. -/
def GivesBack (metadata : Metadata) (dialect : Dialect) (row : Row) (entity : Instance) : Prop :=
  ∀ column ∈ metadata.mappedColumns, ∀ value, (.text (column.storedName dialect), value) ∈ row →
    Association.find entity.values column.name = some value

/-- A stored name goes by the name of its column or of its member. -/
def IsRecognized (dialect : Dialect) (column : Column) : Prop :=
  storedForm dialect column = matchingForm column.columnName ∨
    storedForm dialect column = matchingForm column.name

/-- A stored name stands for the member of its own column, or for none. -/
theorem StoresApart.recognized_of_stands (apart : metadata.StoresApart dialect)
    (mapped : column ∈ metadata.mappedColumns) {member : String}
    (stands : Association.find metadata.rowMembers (storedForm dialect column) = some member) :
    IsRecognized dialect column ∧ member = column.name := by
  obtain ⟨found, foundMapped, rfl, named⟩ := mem_of_find_rowMembers stands
  obtain rfl : found = column := by
    by_contra other
    obtain ⟨notColumn, notMember⟩ := apart.others column mapped found foundMapped other
    rcases named with byColumn | byMember
    · exact notColumn byColumn.symm
    · exact notMember byMember.symm
  exact ⟨named.imp Eq.symm Eq.symm, rfl⟩

theorem StoresApart.stands (apart : metadata.StoresApart dialect)
    (mapped : column ∈ metadata.mappedColumns) (recognized : IsRecognized dialect column) :
    Association.find metadata.rowMembers (storedForm dialect column) = some column.name := by
  have found :
      (Association.find metadata.rowMembers (storedForm dialect column)).isSome = true := by
    rw [Metadata.find_rowMembers, Option.isSome_map, List.find?_isSome]
    exact ⟨column, mapped, by simpa using recognized.imp Eq.symm Eq.symm⟩
  obtain ⟨member, stands⟩ := Option.isSome_iff_exists.mp found
  rw [stands, (apart.recognized_of_stands mapped stands).2]

theorem StoredIn.exists_column (stored : metadata.StoredIn dialect row) {entry : Value × Value}
    (member : entry ∈ row) :
    ∃ column ∈ metadata.mappedColumns, entry = (.text (column.storedName dialect), entry.2) := by
  have isName := stored.mem_iff.mp (List.mem_map_of_mem member)
  obtain ⟨column, mapped, named⟩ := List.mem_map.mp isName
  exact ⟨column, mapped, Prod.ext named.symm rfl⟩

theorem StoredIn.present (stored : metadata.StoredIn dialect row)
    (mapped : column ∈ metadata.mappedColumns) :
    ∃ value, (.text (column.storedName dialect), value) ∈ row := by
  have isKey := stored.mem_iff.mpr
    (List.mem_map_of_mem (f := fun column => Value.text (column.storedName dialect)) mapped)
  obtain ⟨⟨_, value⟩, member, rfl⟩ := List.mem_map.mp isKey
  exact ⟨value, member⟩

/-- The stored names of a row are different. -/
theorem StoresApart.nodup_keys (apart : metadata.StoresApart dialect)
    (stored : metadata.StoredIn dialect row) : (row.map (·.1)).Nodup := by
  rw [stored.nodup_iff]
  have pairwise := List.pairwise_map.mp apart.distinct
  refine List.pairwise_map.mpr (pairwise.imp fun different same => different ?_)
  exact congrArg matchingForm (Value.text.inj same)

/-- If every stored name is recognized, a member gets the value of its own column. -/
theorem StoresApart.find_rowValues (apart : metadata.StoresApart dialect)
    (stored : metadata.StoredIn dialect row) (nodup : (metadata.mappedColumns.map (·.name)).Nodup)
    (recognized : ∀ column ∈ metadata.mappedColumns, IsRecognized dialect column)
    (mapped : column ∈ metadata.mappedColumns) {value : Value}
    (present : (.text (column.storedName dialect), value) ∈ row) :
    Association.find (rowValues metadata.rowMembers row) column.name = some value := by
  have stands := apart.stands mapped (recognized column mapped)
  have found : (row.find? fun entry =>
      Association.find metadata.rowMembers (Row.form entry) = some column.name).isSome = true :=
    List.find?_isSome.mpr ⟨_, present, by simpa [form_storedName] using stands⟩
  obtain ⟨entry, first⟩ := Option.isSome_iff_exists.mp found
  have isEntry := List.mem_of_find?_eq_some first
  obtain ⟨owner, ownerMapped, entry_eq⟩ := stored.exists_column isEntry
  have standsFor := List.find?_some first
  rw [entry_eq, form_storedName] at standsFor
  have sameMember := (apart.recognized_of_stands ownerMapped (of_decide_eq_true standsFor)).2
  obtain rfl := List.inj_on_of_nodup_map nodup mapped ownerMapped sameMember
  have sameEntry : entry = (.text (column.storedName dialect), value) :=
    List.inj_on_of_nodup_map (apart.nodup_keys stored) isEntry present (by rw [entry_eq])
  rw [Metadata.find_rowValues, first, sameEntry]
  rfl

theorem StoresApart.givesBack (apart : metadata.StoresApart dialect)
    (stores : Stores construct (metadata.mappedColumns.map (·.name)) accepts untouched)
    (stored : metadata.StoredIn dialect row) (admits : metadata.AdmitsStored dialect accepts row)
    (nodup : (metadata.mappedColumns.map (·.name)).Nodup)
    (recognized : ∀ column ∈ metadata.mappedColumns, IsRecognized dialect column) :
    ∃ entity, metadata.fromRow construct row = .ok entity ∧
      metadata.GivesBack dialect row entity := by
  obtain ⟨entity, made⟩ := exists_fromRow stores fun column mapped => by
    obtain ⟨value, present⟩ := stored.present mapped
    exact ⟨value, apart.find_rowValues stored nodup recognized mapped present,
      admits column mapped value present⟩
  exact ⟨entity, made, fun column mapped value present =>
    stores.keeps _ _ made _ (List.mem_map_of_mem mapped) _
      (apart.find_rowValues stored nodup recognized mapped present)
      (admits column mapped value present)⟩

/-- A row with a mark under every stored name. -/
def markedStoredRow (metadata : Metadata) (dialect : Dialect)
    (untouched : Association String Value) : Row :=
  metadata.mappedColumns.map fun column =>
    (.text (column.storedName dialect), mark untouched column)

theorem storedIn_markedStoredRow (metadata : Metadata) (dialect : Dialect)
    (untouched : Association String Value) :
    metadata.StoredIn dialect (metadata.markedStoredRow dialect untouched) := by
  rw [StoredIn, markedStoredRow, List.map_map]
  exact .refl _

theorem GivesBack.held
    (givesBack : metadata.GivesBack dialect (metadata.markedStoredRow dialect untouched) entity)
    (mapped : column ∈ metadata.mappedColumns) :
    Association.find entity.values column.name = some (mark untouched column) :=
  givesBack column mapped _ (List.mem_map_of_mem mapped)

theorem GivesBack.recognized (apart : metadata.StoresApart dialect)
    (stores : Stores construct (metadata.mappedColumns.map (·.name)) (fun _ _ => True) untouched)
    (made : metadata.fromRow construct (metadata.markedStoredRow dialect untouched) = .ok entity)
    (givesBack : metadata.GivesBack dialect (metadata.markedStoredRow dialect untouched) entity)
    (mapped : column ∈ metadata.mappedColumns) : IsRecognized dialect column := by
  obtain ⟨entry, isEntry, stands, marked⟩ := stands_of_held stores made mapped
    (givesBack.held mapped) (mark_ne_untouched untouched column)
  obtain ⟨owner, ownerMapped, rfl⟩ := List.mem_map.mp isEntry
  have sameName := columnName_of_mark marked
  have sameForm : storedForm dialect owner = storedForm dialect column :=
    congrArg (matchingForm ∘ dialect.fold) sameName
  rw [form_storedName, sameForm] at stands
  exact (apart.recognized_of_stands mapped stands).1

/-- Every row of stored names gives each mapped member the value of its own column exactly if
the mapped members have different names and each stored name, up to case and underscores, is
still that of its column or of its member.  For a column name without a capital sigma that is
lost only where the folding writes underscores for blanks, dashes or dots.  Rows also give their
values back to the instances of a constructor that checks them, as long as it accepts them as they
are. -/
theorem entityOfRow_givesBack_iff (metadata : Metadata) (type : EntityType) (dialect : Dialect)
    (takes : type.Takes (metadata.mappedColumns.map (·.name)))
    (apart : metadata.StoresApart dialect) :
    ((∀ row, metadata.StoredIn dialect row → ∃ entity,
        metadata.entityOfRow type row = .ok entity ∧ metadata.GivesBack dialect row entity) ↔
      (metadata.mappedColumns.map (·.name)).Nodup ∧
        ∀ column ∈ metadata.mappedColumns,
          matchingForm (dialect.fold column.columnName) = matchingForm column.columnName ∨
            matchingForm (dialect.fold column.columnName) = matchingForm column.name) ∧
    (∀ column ∈ metadata.mappedColumns, 'Σ' ∉ column.columnName.toList →
      (matchingForm (dialect.fold column.columnName) = matchingForm column.columnName ↔
        (dialect.folding = .lowerSnake → ∀ c ∈ column.columnName.toList,
          ¬(Text.isBlank c ∨ c = '-' ∨ c = '.')))) ∧
    ((metadata.mappedColumns.map (·.name)).Nodup →
      (∀ column ∈ metadata.mappedColumns,
        matchingForm (dialect.fold column.columnName) = matchingForm column.columnName ∨
          matchingForm (dialect.fold column.columnName) = matchingForm column.name) →
      ∀ construct accepts untouched,
        Stores construct (metadata.mappedColumns.map (·.name)) accepts untouched →
        ∀ row, metadata.StoredIn dialect row → metadata.AdmitsStored dialect accepts row →
          ∃ entity, metadata.fromRow construct row = .ok entity ∧
            metadata.GivesBack dialect row entity) := by
  refine ⟨⟨fun restored => ?_, ?_⟩, fun column _ noSigma => ?_, ?_⟩
  · obtain ⟨entity, made, givesBack⟩ :=
      restored _ (storedIn_markedStoredRow metadata dialect type.untouched)
    have distinct : (metadata.mappedColumns.map (·.columnName)).Nodup :=
      .of_map (matchingForm ∘ dialect.fold) (by rw [List.map_map]; exact apart.distinct)
    have nodup := nodup_names_of_marks distinct fun column mapped => givesBack.held mapped
    exact ⟨nodup, fun column mapped => givesBack.recognized apart takes.stores made mapped⟩
  · rintro ⟨nodup, recognized⟩ row stored
    exact apart.givesBack takes.stores stored (fun _ _ _ _ => trivial) nodup recognized
  · rw [matchingForm_fold_iff dialect noSigma]
    simp [isSeparator, and_assoc]
  · intro nodup recognized construct accepts untouched stores row stored admits
    exact apart.givesBack stores stored admits nodup recognized

/-- A dialect that stores names in snake case. -/
def snakeCased : Dialect := ⟨.postgres .lowerSnake, .percent⟩

def personMetadata : Metadata where
  name := "Person"
  table := some "Person"
  columns := [{ name := "Id", key := true, generated := .identity }, { name := "FirstName" },
    { name := "LastName" }, { name := "Age" }, { name := "CreateDateUTC", generated := .computed },
    { name := "FullName", notMapped := true }]

theorem person_givesBack :
    Samples.person.metadata = .ok personMetadata ∧
      (personMetadata.mappedColumns.map (·.storedName snakeCased)) =
        ["id", "first_name", "last_name", "age", "create_date_utc"] ∧
      Samples.person.Takes (personMetadata.mappedColumns.map (·.name)) ∧
      personMetadata.StoresApart snakeCased ∧
      (∀ row, personMetadata.StoredIn snakeCased row → ∃ entity,
        personMetadata.entityOfRow Samples.person row = .ok entity ∧
          personMetadata.GivesBack snakeCased row entity) ∧
      accountMetadata.StoresApart snakeCased ∧
      ∀ row, accountMetadata.StoredIn snakeCased row →
        accountMetadata.AdmitsStored snakeCased AccountAccepts row → ∃ entity,
          accountMetadata.fromRow typedAccount row = .ok entity ∧
            accountMetadata.GivesBack snakeCased row entity := by
  have takes : Samples.person.Takes (personMetadata.mappedColumns.map (·.name)) :=
    .inr ⟨by decide, by decide, by simp [Samples.person, Samples.field]⟩
  have apart : personMetadata.StoresApart snakeCased := ⟨by decide +kernel, by decide +kernel⟩
  have accountApart : accountMetadata.StoresApart snakeCased :=
    ⟨by decide +kernel, by decide +kernel⟩
  -- no column name has a capital sigma, a blank, a dash or a dot
  have plain : ∀ column ∈ personMetadata.mappedColumns ++ accountMetadata.mappedColumns,
      'Σ' ∉ column.columnName.toList ∧
        column.columnName.toList.all (!isSeparator ·) = true := by
    decide +kernel
  obtain ⟨restores, _, _⟩ :=
    entityOfRow_givesBack_iff personMetadata Samples.person snakeCased takes apart
  obtain ⟨_, _, restoresTyped⟩ :=
    entityOfRow_givesBack_iff accountMetadata Samples.account snakeCased account_takes accountApart
  refine ⟨rfl, by decide +kernel, takes, apart, restores.mpr ⟨by decide, fun column mapped => ?_⟩,
    accountApart, restoresTyped (by decide) (fun column mapped => ?_) _ _ _ typedAccount_stores⟩
  · exact .inl (matchingForm_fold_of_plain _ (plain column (List.mem_append_left _ mapped)))
  · exact .inl (matchingForm_fold_of_plain _ (plain column (List.mem_append_right _ mapped)))

/-- A guest whose first name is stored in a column with a blank in its name. -/
def guest : EntityType where
  name := "Guest"
  shape := .closed
  fields := [Samples.field "Id" .null, Samples.field "Given" (.text "")]
  mapping := .declared {
    columns := [{ name := "Id", key := true, generated := .identity },
      { name := "Given", column := some "first name" }] }

def guestMetadata : Metadata where
  name := "Guest"
  columns := [{ name := "Id", key := true, generated := .identity },
    { name := "Given", column := some "first name" }]

/-- The stored name has an underscore for the blank, and nothing takes the value up. -/
theorem guest_loses_name :
    let row : Row := [(.text "id", .int 7), (.text "first_name", .text "Ann")]
    let entity : Instance := ⟨guest, [("Id", .int 7), ("Given", .text "")]⟩
    guest.metadata = .ok guestMetadata ∧
      guest.Takes (guestMetadata.mappedColumns.map (·.name)) ∧
      (∀ column ∈ guestMetadata.mappedColumns,
        column.columnName ≠ "" ∧ snakeCased.isDelimited column.columnName = false) ∧
      guestMetadata.StoresApart snakeCased ∧ guestMetadata.StoredIn snakeCased row ∧
      guestMetadata.entityOfRow guest row = .ok entity ∧
      ¬guestMetadata.GivesBack snakeCased row entity := by
  intro row entity
  refine ⟨rfl, .inr ⟨by decide, by decide, by simp [guest, Samples.field]⟩, by decide +kernel,
    ⟨by decide +kernel, by decide +kernel⟩, ?_, rfl, fun givesBack => ?_⟩
  · have names : guestMetadata.mappedColumns.map (·.storedName snakeCased) =
        ["id", "first_name"] := by
      decide +kernel
    have keys := congrArg (List.map Value.text) names
    rw [List.map_map] at keys
    exact .of_eq keys.symm
  · have name_eq : Column.storedName snakeCased { name := "Given", column := some "first name" } =
        "first_name" := by
      decide +kernel
    have held := givesBack _ (List.mem_cons_of_mem _ List.mem_cons_self) (.text "Ann")
      (by simp [name_eq, row])
    have same : "" = "Ann" := Value.text.inj (Option.some.inj held)
    exact absurd same (by decide)

end Metadata

end EntitySql
