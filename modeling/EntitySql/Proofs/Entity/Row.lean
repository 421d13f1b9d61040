import EntitySql.Entity.Row
import EntitySql.Samples
import EntitySql.Proofs.Entity.Instance
import Mathlib.Data.List.Nodup

/-!
# Entities made from rows

The names of columns and members share one table in which the first to come
counts.  So a row gives every member the value under its own column exactly as
long as no member before it goes by the name of that column.
-/

namespace EntitySql

/-- The form in which a name in a row is matched. -/
def Row.form (entry : Value × Value) : String := matchingForm entry.1.plainText

namespace Metadata

/-- A row that has each mapped column exactly once, and besides only names that are
neither those of columns nor those of members. -/
structure Fits (metadata : Metadata) (row : Row) : Prop where
  once : ∀ column ∈ metadata.mappedColumns,
    ∃ entry, row.filter (Row.form · = matchingForm column.columnName) = [entry]
  others : ∀ entry ∈ row,
    (∃ column ∈ metadata.mappedColumns, Row.form entry = matchingForm column.columnName) ∨
      ∀ column ∈ metadata.mappedColumns, Row.form entry ≠ matchingForm column.name

/-- An entity that has the values of a row under the members of their columns, and
nothing else. -/
structure Restores (metadata : Metadata) (untouched : Association String Value) (row : Row)
    (entity : Instance) : Prop where
  mapped : ∀ column ∈ metadata.mappedColumns, ∀ entry ∈ row,
    Row.form entry = matchingForm column.columnName →
      Association.find entity.values column.name = some entry.2
  unmapped : ∀ member, member ∉ metadata.mappedColumns.map (·.name) →
    Association.find entity.values member = Association.find untouched member

/-- A row whose values are accepted by the members of their columns. -/
def AdmitsRow (metadata : Metadata) (accepts : String → Value → Prop) (row : Row) : Prop :=
  ∀ column ∈ metadata.mappedColumns, ∀ entry ∈ row,
    Row.form entry = matchingForm column.columnName → accepts column.name entry.2

variable {metadata : Metadata} {type : EntityType} {row : Row} {entity : Instance}
variable {members : Association String String} {columns : List Column} {column : Column}
variable {construct : Constructor} {accepts : String → Value → Prop}
variable {untouched : Association String Value}

/-! ## Looking names up -/

theorem find_reserve (members : Association String String) (name member key : String) :
    Association.find (reserve members name member) key =
      (Association.find members key).or (if name = key then some member else none) := by
  unfold reserve
  rw [Association.has_eq_isSome]
  by_cases same : name = key
  · subst same
    cases found : Association.find members name <;> simp [found, Association.find_cons]
  · split <;> simp [same, Association.find_cons]

theorem find_foldl_reserve (columns : List Column) (members : Association String String)
    (key : String) :
    Association.find
        (columns.foldl
          (fun members column =>
            reserve (reserve members (matchingForm column.columnName) column.name)
              (matchingForm column.name) column.name)
          members) key =
      (Association.find members key).or
        ((columns.find? fun column =>
          matchingForm column.columnName = key ∨ matchingForm column.name = key).map (·.name)) := by
  induction columns generalizing members with
  | nil => simp
  | cons column rest ih =>
      rw [List.foldl_cons, ih, find_reserve, find_reserve, Option.or_assoc, Option.or_assoc]
      by_cases own : matchingForm column.columnName = key
      · simp [own]
      · by_cases byMember : matchingForm column.name = key <;> simp [own, byMember]

/-- The first column counts whose own name or whose member's name is the one looked up. -/
theorem find_rowMembers (metadata : Metadata) (key : String) :
    Association.find metadata.rowMembers key =
      (metadata.mappedColumns.find? fun column =>
        matchingForm column.columnName = key ∨ matchingForm column.name = key).map (·.name) := by
  rw [rowMembers, find_foldl_reserve]
  simp

/-- Takes an entry of a row up under the member it stands for, unless the member has a value. -/
def takeUp (members : Association String String) (values : Association String Value)
    (entry : Value × Value) : Association String Value :=
  match Association.find members (Row.form entry) with
  | none => values
  | some member =>
    if Association.has values member then values else values ++ [(member, entry.2)]

theorem rowValues_eq_foldl (members : Association String String) (row : Row) :
    rowValues members row = row.foldl (takeUp members) [] :=
  rfl

theorem find_takeUp (members : Association String String) (values : Association String Value)
    (entry : Value × Value) (member : String) :
    Association.find (takeUp members values entry) member =
      (Association.find values member).or
        (if Association.find members (Row.form entry) = some member then some entry.2
        else none) := by
  unfold takeUp
  cases found : Association.find members (Row.form entry) with
  | none => simp
  | some other =>
      simp only [Association.has_eq_isSome]
      by_cases same : other = member
      · subst same
        cases present : Association.find values other <;> simp [present, Association.find_cons]
      · split <;> simp [same, Association.find_cons]

theorem find_foldl_takeUp (members : Association String String) (row : Row)
    (values : Association String Value) (member : String) :
    Association.find (row.foldl (takeUp members) values) member =
      (Association.find values member).or
        ((row.find? fun entry =>
          Association.find members (Row.form entry) = some member).map (·.2)) := by
  induction row generalizing values with
  | nil => simp
  | cons entry rest ih =>
      rw [List.foldl_cons, ih, find_takeUp, Option.or_assoc]
      by_cases stands : Association.find members (Row.form entry) = some member <;> simp [stands]

/-- The first entry counts whose name stands for the member. -/
theorem find_rowValues (members : Association String String) (row : Row) (member : String) :
    Association.find (rowValues members row) member =
      (row.find? fun entry =>
        Association.find members (Row.form entry) = some member).map (·.2) := by
  rw [rowValues_eq_foldl, find_foldl_takeUp]
  simp

/-- Each column name stands for its own member exactly if it is not the name of an
earlier member. -/
theorem find_own_iff (distinct : columns.Pairwise fun first second =>
      matchingForm first.columnName ≠ matchingForm second.columnName)
    (nodup : (columns.map (·.name)).Nodup) :
    (∀ column ∈ columns,
      (columns.find? fun other => matchingForm other.columnName = matchingForm column.columnName ∨
        matchingForm other.name = matchingForm column.columnName).map (·.name) =
          some column.name) ↔
      columns.Pairwise fun earlier later =>
        matchingForm earlier.name ≠ matchingForm later.columnName := by
  induction columns with
  | nil => simp
  | cons first rest ih =>
      obtain ⟨firstDistinct, distinct⟩ := List.pairwise_cons.mp distinct
      obtain ⟨firstNew, nodup⟩ := List.nodup_cons.mp nodup
      rw [List.pairwise_cons, ← ih distinct nodup, List.forall_mem_cons]
      have firstFound : ((first :: rest).find? fun other =>
          matchingForm other.columnName = matchingForm first.columnName ∨
            matchingForm other.name = matchingForm first.columnName).map (·.name) =
              some first.name := by
        simp
      rw [← forall₂_and]
      refine ⟨fun own => ?_, fun own => ⟨firstFound, ?_⟩⟩
      · intro column member
        have different := firstDistinct column member
        have found := own.2 column member
        by_cases taken : matchingForm first.name = matchingForm column.columnName
        · have same : first.name = column.name := by simpa [taken] using found
          exact absurd (List.mem_map.mpr ⟨column, member, same.symm⟩) firstNew
        · exact ⟨taken, by simpa [different, taken] using found⟩
      · intro column member
        obtain ⟨taken, found⟩ := own column member
        simpa [firstDistinct column member, taken] using found

/-! ## Rows that fit -/

theorem mem_of_find_rowMembers {key member : String}
    (found : Association.find metadata.rowMembers key = some member) :
    ∃ column ∈ metadata.mappedColumns, column.name = member ∧
      (matchingForm column.columnName = key ∨ matchingForm column.name = key) := by
  rw [find_rowMembers, Option.map_eq_some_iff] at found
  obtain ⟨column, first, isMember⟩ := found
  have named := List.find?_some first
  exact ⟨column, List.mem_of_find?_eq_some first, isMember, by simpa using named⟩

/-- Only members of mapped columns get values. -/
theorem find_rowValues_of_unmapped (row : Row) {member : String}
    (unmapped : member ∉ metadata.mappedColumns.map (·.name)) :
    Association.find (rowValues metadata.rowMembers row) member = none := by
  rw [find_rowValues, Option.map_eq_none_iff, List.find?_eq_none]
  intro entry _ stands
  obtain ⟨column, mapped, isMember, _⟩ := mem_of_find_rowMembers (of_decide_eq_true stands)
  exact unmapped (List.mem_map.mpr ⟨column, mapped, isMember⟩)

/-- A mapped member gets the value under its own column, if each column name stands
for its own member. -/
theorem Fits.find_rowValues (fits : metadata.Fits row)
    (nodup : (metadata.mappedColumns.map (·.name)).Nodup)
    (own : ∀ column ∈ metadata.mappedColumns,
      Association.find metadata.rowMembers (matchingForm column.columnName) = some column.name)
    (mapped : column ∈ metadata.mappedColumns) {entry : Value × Value} (present : entry ∈ row)
    (under : Row.form entry = matchingForm column.columnName) :
    Association.find (rowValues metadata.rowMembers row) column.name = some entry.2 := by
  have stands_iff : ∀ other ∈ row,
      Association.find metadata.rowMembers (Row.form other) = some column.name ↔
        Row.form other = matchingForm column.columnName := by
    intro other member
    refine ⟨fun stands => ?_, fun same => by rw [same, own column mapped]⟩
    obtain ⟨found, foundMapped, _, named⟩ := mem_of_find_rowMembers stands
    rcases fits.others other member with ⟨its, itsMapped, same⟩ | none
    · rw [same, own its itsMapped, Option.some.injEq] at stands
      rw [same, List.inj_on_of_nodup_map nodup itsMapped mapped stands]
    · rcases named with byColumn | byMember
      · rw [← byColumn, own found foundMapped, Option.some.injEq] at stands
        rw [← byColumn, List.inj_on_of_nodup_map nodup foundMapped mapped stands]
      · exact absurd byMember.symm (none found foundMapped)
  have filtered : row.filter (fun other =>
      Association.find metadata.rowMembers (Row.form other) = some column.name) =
        row.filter (Row.form · = matchingForm column.columnName) :=
    List.filter_congr fun other member => by simp only [stands_iff other member]
  obtain ⟨only, onlyOne⟩ := fits.once column mapped
  have isOnly : entry ∈ row.filter (Row.form · = matchingForm column.columnName) := by
    simp [present, under]
  rw [onlyOne, List.mem_singleton] at isOnly
  rw [Metadata.find_rowValues, ← List.head?_filter, filtered, onlyOne, isOnly]
  rfl

theorem Fits.present (fits : metadata.Fits row) (mapped : column ∈ metadata.mappedColumns) :
    ∃ entry ∈ row, Row.form entry = matchingForm column.columnName := by
  obtain ⟨entry, onlyOne⟩ := fits.once column mapped
  have isOnly : entry ∈ row.filter (Row.form · = matchingForm column.columnName) := by
    simp [onlyOne]
  obtain ⟨present, under⟩ := List.mem_filter.mp isOnly
  exact ⟨entry, present, of_decide_eq_true under⟩

/-- An entity can be made from a row that has an accepted value for every mapped member. -/
theorem exists_fromRow
    (stores : Stores construct (metadata.mappedColumns.map (·.name)) accepts untouched)
    (given : ∀ column ∈ metadata.mappedColumns, ∃ value,
      Association.find (rowValues metadata.rowMembers row) column.name = some value ∧
        accepts column.name value) :
    ∃ entity, metadata.fromRow construct row = .ok entity := by
  have mapped_of_given : ∀ member value,
      Association.find (rowValues metadata.rowMembers row) member = some value →
        ∃ column ∈ metadata.mappedColumns, column.name = member := by
    intro member value found
    by_contra unmapped
    rw [find_rowValues_of_unmapped row (by simpa using unmapped)] at found
    cases found
  refine stores.makes _ (fun member => ⟨fun isGiven => ?_, fun isMapped => ?_⟩)
    fun member value found => ?_
  · obtain ⟨value, found⟩ := Option.isSome_iff_exists.mp isGiven
    exact List.mem_map.mpr (mapped_of_given member value found)
  · obtain ⟨column, mapped, rfl⟩ := List.mem_map.mp isMapped
    obtain ⟨value, found, _⟩ := given column mapped
    exact Option.isSome_iff_exists.mpr ⟨value, found⟩
  · obtain ⟨column, mapped, rfl⟩ := mapped_of_given member value found
    obtain ⟨other, same, accepted⟩ := given column mapped
    rw [found, Option.some.injEq] at same
    rwa [same]

theorem Fits.restored (fits : metadata.Fits row) (admits : metadata.AdmitsRow accepts row)
    (stores : Stores construct (metadata.mappedColumns.map (·.name)) accepts untouched)
    (nodup : (metadata.mappedColumns.map (·.name)).Nodup)
    (own : ∀ column ∈ metadata.mappedColumns,
      Association.find metadata.rowMembers (matchingForm column.columnName) = some column.name) :
    ∃ entity, metadata.fromRow construct row = .ok entity ∧
      metadata.Restores untouched row entity := by
  obtain ⟨entity, made⟩ := exists_fromRow stores fun column mapped => by
    obtain ⟨entry, present, under⟩ := fits.present mapped
    exact ⟨entry.2, fits.find_rowValues nodup own mapped present under,
      admits column mapped entry present under⟩
  refine ⟨entity, made, fun column mapped entry present under => ?_, fun member unmapped => ?_⟩
  · exact stores.keeps _ _ made _ (List.mem_map_of_mem mapped) _
      (fits.find_rowValues nodup own mapped present under)
      (admits column mapped entry present under)
  · exact stores.leaves _ _ made _ (find_rowValues_of_unmapped row unmapped)

/-! ## A row that tells -/

/-- A value by which a column can be told, and which its member does not have untouched. -/
def mark (untouched : Association String Value) (column : Column) : Value :=
  .tuple [.text column.columnName, (Association.find untouched column.name).getD .null]

theorem columnName_of_mark {first second : Column}
    (same : mark untouched first = mark untouched second) :
    first.columnName = second.columnName := by
  simp only [mark, Value.tuple.injEq, List.cons.injEq, Value.text.injEq] at same
  exact same.1

theorem mark_ne_untouched (untouched : Association String Value) (column : Column) :
    Association.find untouched column.name ≠ some (mark untouched column) := by
  intro isMark
  -- the mark would be a part of itself
  have nested : mark untouched column = .tuple [.text column.columnName, mark untouched column] := by
    conv_lhs => rw [mark, isMark]
    rfl
  have size := congrArg sizeOf nested
  simp at size
  omega

/-- A member of two columns would have the marks of both. -/
theorem nodup_names_of_marks (distinct : (metadata.mappedColumns.map (·.columnName)).Nodup)
    (held : ∀ column ∈ metadata.mappedColumns,
      Association.find entity.values column.name = some (mark untouched column)) :
    (metadata.mappedColumns.map (·.name)).Nodup := by
  refine List.pairwise_map.mpr ((List.pairwise_map.mp distinct).imp_of_mem ?_)
  intro first second firstMapped secondMapped different same
  have firstHeld := held first firstMapped
  rw [same, held second secondMapped, Option.some.injEq] at firstHeld
  exact different (columnName_of_mark firstHeld).symm

/-- A row with a mark under every mapped column. -/
def markedRow (metadata : Metadata) (untouched : Association String Value) : Row :=
  metadata.mappedColumns.map fun column => (.text column.columnName, mark untouched column)

theorem form_text (name : String) (value : Value) :
    Row.form (.text name, value) = matchingForm name := by
  rw [Row.form, Value.plainText]

theorem filter_eq_singleton {α β : Type} [DecidableEq β] {view : α → β} {items : List α}
    (nodup : (items.map view).Nodup) {item : α} (member : item ∈ items) :
    items.filter (view · = view item) = [item] := by
  induction items with
  | nil => cases member
  | cons first rest ih =>
      obtain ⟨firstNew, nodup⟩ := List.nodup_cons.mp nodup
      rcases List.mem_cons.mp member with rfl | later
      · have noOther : ∀ other ∈ rest, view other ≠ view item := by
          intro other isLater same
          exact firstNew (List.mem_map.mpr ⟨other, isLater, same⟩)
        simpa using noOther
      · have different : view first ≠ view item := by
          intro same
          exact firstNew (List.mem_map.mpr ⟨item, later, same.symm⟩)
        simp [different, ih nodup later]

theorem markedRow_fits (untouched : Association String Value)
    (distinct : (metadata.mappedColumns.map fun column =>
      matchingForm column.columnName).Nodup) : metadata.Fits (metadata.markedRow untouched) where
  once column mapped := by
    refine ⟨(.text column.columnName, mark untouched column), ?_⟩
    have only := filter_eq_singleton distinct mapped
    simp only [markedRow, List.filter_map, Function.comp_def, form_text, only, List.map_singleton]
  others entry member := by
    obtain ⟨column, mapped, rfl⟩ := List.mem_map.mp member
    exact .inl ⟨column, mapped, form_text _ _⟩

section

variable (stores : Stores construct (metadata.mappedColumns.map (·.name)) (fun _ _ => True) untouched)
include stores

/-- A value that a member does not have untouched comes from an entry of the row that
stands for the member. -/
theorem stands_of_held (made : metadata.fromRow construct row = .ok entity)
    (mapped : column ∈ metadata.mappedColumns) {value : Value}
    (held : Association.find entity.values column.name = some value)
    (touched : Association.find untouched column.name ≠ some value) :
    ∃ entry ∈ row, Association.find metadata.rowMembers (Row.form entry) = some column.name ∧
      entry.2 = value := by
  cases given : Association.find (rowValues metadata.rowMembers row) column.name with
  | none =>
      rw [stores.leaves _ _ made _ given] at held
      exact absurd held touched
  | some other =>
      have stored := stores.keeps _ _ made _ (List.mem_map_of_mem mapped) _ given trivial
      rw [stored, Option.some.injEq] at held
      rw [find_rowValues, Option.map_eq_some_iff] at given
      obtain ⟨entry, first, rfl⟩ := given
      have stands := List.find?_some first
      exact ⟨entry, List.mem_of_find?_eq_some first, of_decide_eq_true stands, held⟩

/-- An entity that has the values of the marked row tells which column names stand for
which members. -/
theorem Restores.own_of_markedRow
    (restores : metadata.Restores untouched (metadata.markedRow untouched) entity)
    (made : metadata.fromRow construct (metadata.markedRow untouched) = .ok entity)
    (mapped : column ∈ metadata.mappedColumns) :
    Association.find entity.values column.name = some (mark untouched column) ∧
      Association.find metadata.rowMembers (matchingForm column.columnName) =
        some column.name := by
  have marked : (Value.text column.columnName, mark untouched column) ∈
      metadata.markedRow untouched :=
    List.mem_map_of_mem mapped
  have held : Association.find entity.values column.name = some (mark untouched column) :=
    restores.mapped column mapped _ marked (form_text _ _)
  obtain ⟨entry, isEntry, stands, sameMark⟩ :=
    stands_of_held stores made mapped held (mark_ne_untouched untouched column)
  obtain ⟨other, _, rfl⟩ := List.mem_map.mp isEntry
  rw [form_text, columnName_of_mark sameMark] at stands
  exact ⟨held, stands⟩

/-- Where every row that fits is restored, the members have different names and each column
stands for its own member. -/
theorem own_of_restored
    (distinct : (metadata.mappedColumns.map fun column => matchingForm column.columnName).Nodup)
    (restored : ∀ row, metadata.Fits row → ∃ entity, metadata.fromRow construct row = .ok entity ∧
      metadata.Restores untouched row entity) :
    (metadata.mappedColumns.map (·.name)).Nodup ∧ ∀ column ∈ metadata.mappedColumns,
      Association.find metadata.rowMembers (matchingForm column.columnName) = some column.name := by
  obtain ⟨entity, made, restores⟩ :=
    restored (metadata.markedRow untouched) (markedRow_fits untouched distinct)
  have own {column : Column} (mapped : column ∈ metadata.mappedColumns) :=
    restores.own_of_markedRow stores made mapped
  have distinctNames : (metadata.mappedColumns.map (·.columnName)).Nodup :=
    .of_map matchingForm (by rwa [List.map_map])
  have nodup := nodup_names_of_marks distinctNames fun column mapped => (own mapped).1
  exact ⟨nodup, fun column mapped => (own mapped).2⟩

end

/-- Rows that fit give every mapped member the value under its own column, and touch
no other member, exactly if the mapped members have different names and no column
goes by the name of an earlier member.  Then rows also restore the instances of a constructor
that checks its values, as long as it accepts them as they are. -/
theorem entityOfRow_restores_iff (metadata : Metadata) (type : EntityType)
    (distinct : (metadata.mappedColumns.map fun column => matchingForm column.columnName).Nodup)
    (takes : type.Takes (metadata.mappedColumns.map (·.name))) :
    ((∀ row, metadata.Fits row → ∃ entity, metadata.entityOfRow type row = .ok entity ∧
        metadata.Restores type.untouched row entity) ↔
      (metadata.mappedColumns.map (·.name)).Nodup ∧
        metadata.mappedColumns.Pairwise fun earlier later =>
          matchingForm earlier.name ≠ matchingForm later.columnName) ∧
    ((metadata.mappedColumns.map (·.name)).Nodup →
      (metadata.mappedColumns.Pairwise fun earlier later =>
        matchingForm earlier.name ≠ matchingForm later.columnName) →
      ∀ construct accepts untouched,
        Stores construct (metadata.mappedColumns.map (·.name)) accepts untouched →
        ∀ row, metadata.Fits row → metadata.AdmitsRow accepts row →
          ∃ entity, metadata.fromRow construct row = .ok entity ∧
            metadata.Restores untouched row entity) := by
  have own_iff (nodup : (metadata.mappedColumns.map (·.name)).Nodup) :
      (∀ column ∈ metadata.mappedColumns,
        Association.find metadata.rowMembers (matchingForm column.columnName) =
          some column.name) ↔
        metadata.mappedColumns.Pairwise fun earlier later =>
          matchingForm earlier.name ≠ matchingForm later.columnName := by
    simp only [find_rowMembers]
    exact find_own_iff (List.pairwise_map.mp distinct) nodup
  refine ⟨⟨fun restored => ?_, ?_⟩, ?_⟩
  · obtain ⟨nodup, own⟩ := own_of_restored takes.stores distinct restored
    exact ⟨nodup, (own_iff nodup).mp own⟩
  · rintro ⟨nodup, ordered⟩ row fits
    exact fits.restored (fun _ _ _ _ _ => trivial) takes.stores nodup ((own_iff nodup).mpr ordered)
  · intro nodup ordered construct accepts untouched stores row fits admits
    exact fits.restored admits stores nodup ((own_iff nodup).mpr ordered)

theorem account_takes : Samples.account.Takes ["AccountId", "Owner", "Balance"] := by
  refine .inr ⟨by decide, by decide, fun field member => ?_⟩
  simp only [Samples.account, List.mem_cons, List.not_mem_nil, or_false] at member
  rcases member with rfl | rfl | rfl <;> simp [Samples.field]

/-- Accounts with typed fields, that refuse a value of another type. -/
def typedAccount : Constructor := fun given =>
  match Association.find given "AccountId", Association.find given "Owner",
      (Association.find given "Balance").getD (.float "0.0") with
  | some (.int number), some (.text owner), .float balance =>
    .ok ⟨Samples.account,
      [("AccountId", .int number), ("Owner", .text owner), ("Balance", .float balance)]⟩
  | _, _, _ => .error (.ofIssues [])

/-- The values that have the type of the field. -/
structure AccountAccepts (name : String) (value : Value) : Prop where
  number : name = "AccountId" → ∃ number, value = .int number
  owner : name = "Owner" → ∃ owner, value = .text owner
  balance : name = "Balance" → ∃ balance, value = .float balance

theorem typedAccount_eq_ok {given : Association String Value}
    (made : typedAccount given = .ok entity) :
    ∃ number owner balance, Association.find given "AccountId" = some (.int number) ∧
      Association.find given "Owner" = some (.text owner) ∧
      (Association.find given "Balance").getD (.float "0.0") = .float balance ∧
      entity.values =
        [("AccountId", .int number), ("Owner", .text owner), ("Balance", .float balance)] := by
  unfold typedAccount at made
  split at made
  · rename_i number owner balance isNumber isOwner isBalance
    cases made
    exact ⟨number, owner, balance, isNumber, isOwner, isBalance, rfl⟩
  · cases made

theorem typedAccount_stores :
    Stores typedAccount ["AccountId", "Owner", "Balance"] AccountAccepts
      [("Balance", .float "0.0")] where
  makes given complete accepted := by
    have present : ∀ name ∈ ["AccountId", "Owner", "Balance"], ∃ value,
        Association.find given name = some value ∧ AccountAccepts name value := by
      intro name member
      obtain ⟨value, found⟩ := Option.isSome_iff_exists.mp ((complete name).mpr member)
      exact ⟨value, found, accepted name value found⟩
    obtain ⟨_, isNumber, accepts⟩ := present "AccountId" (by decide)
    obtain ⟨number, rfl⟩ := accepts.number rfl
    obtain ⟨_, isOwner, accepts⟩ := present "Owner" (by decide)
    obtain ⟨owner, rfl⟩ := accepts.owner rfl
    obtain ⟨_, isBalance, accepts⟩ := present "Balance" (by decide)
    obtain ⟨balance, rfl⟩ := accepts.balance rfl
    simp only [typedAccount, isNumber, isOwner, isBalance, Option.getD_some]
    exact ⟨_, rfl⟩
  keeps given entity made name member value found _ := by
    obtain ⟨number, owner, balance, isNumber, isOwner, isBalance, values⟩ :=
      typedAccount_eq_ok made
    rw [values]
    simp only [List.mem_cons, List.not_mem_nil, or_false] at member
    rcases member with rfl | rfl | rfl
    · exact isNumber.symm.trans found
    · exact isOwner.symm.trans found
    · rw [found, Option.getD_some] at isBalance
      rw [isBalance]
      rfl
  leaves given entity made name missing := by
    obtain ⟨number, owner, balance, isNumber, isOwner, isBalance, values⟩ :=
      typedAccount_eq_ok made
    rw [values]
    by_cases isBalanceName : name = "Balance"
    · subst isBalanceName
      rw [missing, Option.getD_none] at isBalance
      rw [← isBalance]
      rfl
    · have notNumber : name ≠ "AccountId" := by
        rintro rfl
        simp [isNumber] at missing
      have notOwner : name ≠ "Owner" := by
        rintro rfl
        simp [isOwner] at missing
      simp [Association.find_cons, Ne.symm notNumber, Ne.symm notOwner, Ne.symm isBalanceName]

def accountMetadata : Metadata where
  name := "Account"
  table := some "accounts"
  columns := [{ name := "AccountId", column := some "account_id", key := true },
    { name := "Owner", column := some "owner_name" }, { name := "Balance" }]

/-- Accounts are restored from rows with renamed columns, and typed ones from rows with values of
their types. -/
theorem account_restores :
    Samples.account.metadata = .ok accountMetadata ∧
      (accountMetadata.mappedColumns.map fun column => matchingForm column.columnName).Nodup ∧
      Samples.account.Takes (accountMetadata.mappedColumns.map (·.name)) ∧
      (∀ row, accountMetadata.Fits row → ∃ entity,
        accountMetadata.entityOfRow Samples.account row = .ok entity ∧
          accountMetadata.Restores Samples.account.untouched row entity) ∧
      Stores typedAccount (accountMetadata.mappedColumns.map (·.name)) AccountAccepts
        [("Balance", .float "0.0")] ∧
      ∀ row, accountMetadata.Fits row → accountMetadata.AdmitsRow AccountAccepts row →
        ∃ entity, accountMetadata.fromRow typedAccount row = .ok entity ∧
          accountMetadata.Restores [("Balance", .float "0.0")] row entity := by
  have distinct : (["account_id", "owner_name", "Balance"].map matchingForm).Nodup := by
    decide +kernel
  have nodup : ["AccountId", "Owner", "Balance"].Nodup := by decide
  have ordered : accountMetadata.mappedColumns.Pairwise fun earlier later =>
      matchingForm earlier.name ≠ matchingForm later.columnName := by
    decide +kernel
  obtain ⟨restores, restoresTyped⟩ :=
    entityOfRow_restores_iff accountMetadata Samples.account distinct account_takes
  exact ⟨rfl, distinct, account_takes, restores.mpr ⟨nodup, ordered⟩, typedAccount_stores,
    restoresTyped nodup ordered _ _ _ typedAccount_stores⟩

/-- Two members each of which goes by the name of the other one's column. -/
def crossed : Metadata where
  name := "Pair"
  columns := [{ name := "First", column := some "Second" },
    { name := "Second", column := some "First" }]

/-- A pair of two fields that need not be given. -/
def pair : EntityType where
  name := "Pair"
  shape := .closed
  fields := [Samples.field "First" .null, Samples.field "Second" .null]

/-- Behind crossed names the second member gets nothing, although the row has its column. -/
theorem crossed_loses_value :
    let row : Row := [(.text "Second", .int 1), (.text "First", .int 2)]
    (crossed.mappedColumns.map fun column => matchingForm column.columnName).Nodup ∧
      pair.Takes (crossed.mappedColumns.map (·.name)) ∧ crossed.Fits row ∧
      crossed.entityOfRow pair row = .ok ⟨pair, [("First", .int 1), ("Second", .null)]⟩ := by
  intro row
  refine ⟨by decide +kernel, .inr ⟨by decide, by decide, ?_⟩, ⟨?_, ?_⟩, ?_⟩
  · simp [pair, Samples.field]
  · intro column mapped
    rcases List.mem_pair.mp mapped with rfl | rfl
    · exact ⟨(.text "Second", .int 1), rfl⟩
    · exact ⟨(.text "First", .int 2), rfl⟩
  · decide +kernel
  · rfl

end Metadata

end EntitySql
