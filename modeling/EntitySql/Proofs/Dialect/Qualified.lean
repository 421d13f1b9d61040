import EntitySql.Proofs.Dialect.Identifier
import EntitySql.Proofs.Sql.Qualifier
import EntitySql.Proofs.Text.SnakeCase
import EntitySql.Query.Compiled
import EntitySql.Samples

/-!
# Columns behind their table

A column behind a table is written like the last segments of a table name, and without a table
as one identifier.  The two agree for a column without dots, and else exactly if neither is
quoted anew: the column starts and ends with the delimiters, and so does each of its segments
that is not empty.
-/

namespace EntitySql

namespace Text.Delimiters

variable {delimiters : Delimiters}

/-- A quotation does not start with another one that ends before a dot. -/
theorem enclose_ne_enclose_append (lone : delimiters.closing ≠ '.') (content first rest : String) :
    delimiters.enclose content ≠ delimiters.enclose first ++ "." ++ rest := by
  intro same
  have characters := congrArg String.toList same
  simp only [toList_enclose, String.toList_append, List.cons_append, List.append_assoc,
    List.cons.injEq, true_and] at characters
  have read := unquoteAfter_doubleEach delimiters.closing content.toList [] (by simp)
  rw [characters, unquoteAfter_doubleEach _ _ _ (by simpa using lone.symm)] at read
  simp at read

/-- Between characters that are alike, a quotation does not end with another one that starts
behind a dot. -/
theorem enclose_ne_append_enclose (alike : delimiters.opening = delimiters.closing)
    (lone : delimiters.closing ≠ '.') (content leading last : String) :
    delimiters.enclose content ≠ leading ++ "." ++ delimiters.enclose last := by
  intro same
  apply enclose_ne_enclose_append lone (String.ofList content.toList.reverse)
    (String.ofList last.toList.reverse) (String.ofList leading.toList.reverse)
  apply String.toList_inj.mp
  have characters := congrArg (·.toList.reverse) same
  simpa [alike, doubleEach_reverse] using characters

end Text.Delimiters

namespace Dialect

open Text

variable {dialect : Dialect} {name column : String}

theorem closing_ne_dot (dialect : Dialect) : dialect.delimiters.closing ≠ '.' :=
  closing_ne (by decide) (by decide)

theorem opening_ne_dot (dialect : Dialect) : dialect.delimiters.opening ≠ '.' :=
  opening_ne (by decide) (by decide)

theorem length_le_fold (dialect : Dialect) (name : String) :
    name.length ≤ (dialect.fold name).length := by
  unfold fold Folding.apply
  split
  · exact Nat.le_refl _
  · simpa [lowercase, ← String.length_toList] using length_le_lowercaseAfter [] name.toList
  · simpa [snakeCase, ← String.length_toList] using length_le_snakeCaseAfter false name.toList

theorem length_enclose_fold (dialect : Dialect) (name : String) :
    name.length < (dialect.delimiters.enclose (dialect.fold name)).length := by
  have folded := dialect.length_le_fold name
  have doubled := length_le_doubleEach dialect.delimiters.closing (dialect.fold name).toList
  rw [String.length_toList] at doubled
  rw [← String.length_toList (s := dialect.delimiters.enclose _), Delimiters.toList_enclose,
    List.length_cons, List.length_append]
  omega

/-- A name that does not stay as it is gets longer. -/
theorem identifier_eq_or_longer (dialect : Dialect) (name : String) :
    dialect.identifier name = name ∨ name.length < (dialect.identifier name).length := by
  unfold identifier
  split
  · exact .inl rfl
  · exact .inr (dialect.length_enclose_fold name)

theorem identifier_eq_self_iff :
    dialect.identifier name = name ↔ name = "" ∨ dialect.isDelimited name = true := by
  unfold identifier
  split
  · rename_i stays
    simpa using stays
  · rename_i changes
    have longer := dialect.length_enclose_fold name
    simp only [Bool.or_eq_true, String.isEmpty_iff] at changes
    simp only [changes, iff_false]
    intro same
    rw [same] at longer
    exact Nat.lt_irrefl _ longer

/-- Segments that do not stay as they are make the whole name longer. -/
theorem intercalate_identifier_eq_or_longer (dialect : Dialect) (names : List String) :
    (∀ name ∈ names, dialect.identifier name = name) ∨
      (".".intercalate names).length < (".".intercalate (names.map dialect.identifier)).length := by
  induction names with
  | nil => exact .inl (by simp)
  | cons name others ih =>
      cases others with
      | nil => simpa using dialect.identifier_eq_or_longer name
      | cons next others =>
          rw [List.map_cons, List.map_cons, String.intercalate_cons_cons,
            String.intercalate_cons_cons, ← List.map_cons]
          simp only [String.length_append]
          rcases ih with stay | longer
          · rw [List.map_congr_left stay, List.map_id']
            rcases dialect.identifier_eq_or_longer name with stays | longer
            · exact .inl (List.forall_mem_cons.mpr ⟨stays, stay⟩)
            · exact .inr (by omega)
          · refine .inr ?_
            rcases dialect.identifier_eq_or_longer name with stays | longer
            · rw [stays]
              omega
            · omega

theorem intercalate_segments (name : String) : ".".intercalate (segments name) = name := by
  apply String.toList_inj.mp
  have characters : ((segments name).map String.toList) = name.toList.splitOn '.' := by
    simp [segments, Function.comp_def]
  rw [String.toList_intercalate, characters]
  exact List.intercalate_splitOn '.'

theorem tableText_eq_self_iff : dialect.tableText name = name ↔
    ∀ segment ∈ segments name, segment = "" ∨ dialect.isDelimited segment = true := by
  simp only [← identifier_eq_self_iff]
  constructor
  · intro same
    rcases dialect.intercalate_identifier_eq_or_longer (segments name) with stay | longer
    · exact stay
    · rw [intercalate_segments, ← tableText, same] at longer
      exact absurd longer (Nat.lt_irrefl _)
  · intro stay
    rw [tableText, List.map_congr_left stay, List.map_id', intercalate_segments]

theorem tableText_of_undotted (undotted : '.' ∉ name.toList) :
    dialect.tableText name = dialect.identifier name := by
  rw [tableText, segments_of_undotted undotted]
  simp

theorem exists_first_segment (dotted : '.' ∈ name.toList) :
    ∃ first rest, name = first ++ "." ++ rest ∧ '.' ∉ first.toList := by
  obtain ⟨first, rest, characters, undotted⟩ := List.eq_append_cons_of_mem dotted
  refine ⟨String.ofList first, String.ofList rest, ?_, by simpa using undotted⟩
  apply String.toList_inj.mp
  simp [characters]

theorem exists_last_segment (dotted : '.' ∈ name.toList) :
    ∃ leading last, name = leading ++ "." ++ last ∧ '.' ∉ last.toList := by
  obtain ⟨last, leading, characters, undotted⟩ :=
    List.eq_append_cons_of_mem (List.mem_reverse.mpr dotted)
  refine ⟨String.ofList leading.reverse, String.ofList last.reverse, ?_, by simpa using undotted⟩
  apply String.toList_inj.mp
  rw [← List.reverse_inj]
  simp [characters]

theorem isDelimited_iff : dialect.isDelimited name = true ↔
    2 ≤ name.toList.length ∧ name.toList.head? = some dialect.delimiters.opening ∧
      name.toList.getLast? = some dialect.delimiters.closing := by
  simp [isDelimited, Delimiters.enclosed, and_assoc]

/-- A name is delimited if its first and its last segment are. -/
theorem isDelimited_of_segments {first rest leading last : String}
    (starts : name = first ++ "." ++ rest) (ends : name = leading ++ "." ++ last)
    (firstDelimited : dialect.isDelimited first = true)
    (lastDelimited : dialect.isDelimited last = true) : dialect.isDelimited name = true := by
  obtain ⟨long, opens, _⟩ := isDelimited_iff.mp firstDelimited
  obtain ⟨_, _, closes⟩ := isDelimited_iff.mp lastDelimited
  refine isDelimited_iff.mpr ⟨?_, ?_, ?_⟩
  · rw [starts]
    simp only [String.toList_append, List.length_append]
    omega
  · rw [starts]
    simp [opens]
  · rw [ends]
    simp [List.getLast?_cons, closes]

/-- Between brackets a name is not written like its first segment, left as it is, and a rest. -/
theorem enclose_ne_append_of_undotted {first : String} (delimiters : Delimiters)
    (opening : delimiters.opening ≠ '.') (closing : delimiters.closing ≠ '.')
    (undotted : '.' ∉ first.toList) (rest other : String) :
    delimiters.enclose (first ++ "." ++ rest) ≠ first ++ "." ++ other := by
  intro same
  have parts : delimiters.enclose (first ++ "." ++ rest) =
      String.ofList (delimiters.opening :: doubleEach delimiters.closing first.toList) ++ "." ++
        String.ofList (doubleEach delimiters.closing rest.toList ++ [delimiters.closing]) := by
    apply String.toList_inj.mp
    simp [doubleEach_append, doubleEach_cons_other closing.symm]
  have undottedToo : '.' ∉ (String.ofList
      (delimiters.opening :: doubleEach delimiters.closing first.toList)).toList := by
    rw [← List.count_eq_zero] at undotted ⊢
    simpa [count_doubleEach_of_ne closing.symm, opening] using undotted
  rw [parts] at same
  have heads := congrArg segments same
  rw [segments_append, segments_append, segments_of_undotted undotted,
    segments_of_undotted undottedToo] at heads
  have longer := length_le_doubleEach delimiters.closing first.toList
  have same := congrArg (·.toList.length) (List.cons.inj heads).1
  simp only [String.toList_ofList, List.length_cons] at same
  omega

theorem identifier_append_ne_enclose {first : String}
    (notDelimited : dialect.isDelimited first = false) (rest content : String) :
    dialect.identifier first ++ "." ++ rest ≠ dialect.delimiters.enclose content := by
  intro same
  by_cases given : first = ""
  · -- nothing but a quotation starts with the opening character
    rw [given] at same
    have characters := congrArg String.toList same
    simp [identifier, Ne.symm dialect.opening_ne_dot] at characters
  · rw [identifier_of_not_delimited given notDelimited] at same
    exact Delimiters.enclose_ne_enclose_append dialect.closing_ne_dot _ _ _ same.symm

theorem append_identifier_ne_enclose {last : String}
    (alike : dialect.delimiters.opening = dialect.delimiters.closing)
    (notDelimited : dialect.isDelimited last = false) (leading content : String) :
    leading ++ "." ++ dialect.identifier last ≠ dialect.delimiters.enclose content := by
  intro same
  by_cases given : last = ""
  · rw [given] at same
    have characters := congrArg (·.toList.getLast?) same
    simp [identifier, List.getLast?_cons, Ne.symm dialect.closing_ne_dot] at characters
  · rw [identifier_of_not_delimited given notDelimited] at same
    exact Delimiters.enclose_ne_append_enclose alike dialect.closing_ne_dot _ _ _ same.symm

theorem fold_of_brackets (apart : dialect.delimiters.opening ≠ dialect.delimiters.closing)
    (name : String) : dialect.fold name = name := by
  obtain ⟨backend, style⟩ := dialect
  cases backend with
  | sqlServer => rfl
  | _ => exact absurd rfl apart

/-- A dotted name that is not delimited is never written as one identifier. -/
theorem tableText_ne_enclose (dotted : '.' ∈ column.toList)
    (notDelimited : dialect.isDelimited column = false) :
    dialect.tableText column ≠ dialect.delimiters.enclose (dialect.fold column) := by
  obtain ⟨first, rest, starts, firstUndotted⟩ := exists_first_segment dotted
  have fromFirst : dialect.tableText column =
      dialect.identifier first ++ "." ++ dialect.tableText rest := by
    rw [starts, tableText_append, tableText_of_undotted firstUndotted]
  cases firstDelimited : dialect.isDelimited first with
  | false =>
      rw [fromFirst]
      exact identifier_append_ne_enclose firstDelimited _ _
  | true =>
      by_cases alike : dialect.delimiters.opening = dialect.delimiters.closing
      · -- such a quotation can be read backwards, and the last segment is not delimited
        obtain ⟨leading, last, ends, lastUndotted⟩ := exists_last_segment dotted
        have lastNotDelimited : dialect.isDelimited last = false := by
          rw [← Bool.not_eq_true]
          intro lastDelimited
          have delimited := isDelimited_of_segments starts ends firstDelimited lastDelimited
          rw [notDelimited] at delimited
          cases delimited
        rw [ends, tableText_append, tableText_of_undotted lastUndotted]
        exact append_identifier_ne_enclose alike lastNotDelimited _ _
      · rw [fromFirst, identifier_of_delimited firstDelimited, fold_of_brackets alike, starts]
        exact (enclose_ne_append_of_undotted _ dialect.opening_ne_dot dialect.closing_ne_dot
          firstUndotted _ _).symm

/-- The segments of a column are written together as the column is: it has no dots, or it is
delimited as a whole and in each segment that is not empty. -/
def KeepsWhole (dialect : Dialect) (column : String) : Prop :=
  '.' ∉ column.toList ∨ dialect.isDelimited column = true ∧
    ∀ segment ∈ segments column, segment = "" ∨ dialect.isDelimited segment = true

instance (dialect : Dialect) (column : String) : Decidable (dialect.KeepsWhole column) :=
  inferInstanceAs (Decidable (_ ∨ _ ∧ ∀ segment ∈ segments column, _))

theorem tableText_eq_identifier_iff (given : column ≠ "") :
    dialect.tableText column = dialect.identifier column ↔ dialect.KeepsWhole column := by
  by_cases dotted : '.' ∈ column.toList
  · simp only [KeepsWhole, dotted, not_true, false_or]
    cases delimited : dialect.isDelimited column with
    | true => simp [identifier_of_delimited delimited, tableText_eq_self_iff]
    | false =>
        rw [identifier_of_not_delimited given delimited]
        simp [tableText_ne_enclose dotted delimited]
  · simp [KeepsWhole, dotted, tableText_of_undotted dotted]

theorem columnText_eq_prefixed_iff {table : String} (tableGiven : table ≠ "")
    (given : column ≠ "") :
    dialect.columnText (some table) column =
        dialect.tableText table ++ "." ++ dialect.columnText none column ↔
      dialect.KeepsWhole column := by
  have nonempty : table.isEmpty = false := String.isEmpty_eq_false_iff.mpr tableGiven
  simp only [columnText, nonempty]
  rw [← tableText_eq_identifier_iff given, if_neg (by simp), tableText_append]
  exact String.append_right_inj _

/-- In WHERE, in ORDER BY and in the select list, a table before a column only adds its own text
and a dot, exactly if the segments of the column are written together as the column is.  An alias
in the select list is not affected. -/
theorem qualifier_prefixes_iff (dialect : Dialect) {table column : String} (tableGiven : table ≠ "")
    (given : column ≠ "") :
    (∀ (metadata : Option Metadata) (member : String),
      Scope.columnOf { dialect, metadata } member = .ok column →
      (Scope.column { dialect, metadata, qualifier := some table } (.text member) =
          (Scope.column { dialect, metadata } (.text member)).map
            (dialect.tableText table ++ "." ++ ·) ↔
        dialect.KeepsWhole column)) ∧
      (∀ descending, dialect.sortTerm (some table) { column, descending } =
          dialect.tableText table ++ "." ++ dialect.sortTerm none { column, descending } ↔
        dialect.KeepsWhole column) ∧
      (dialect.selectEntry (some table) column =
          dialect.tableText table ++ "." ++ dialect.selectEntry none column ↔
        dialect.KeepsWhole column) := by
  rw [← columnText_eq_prefixed_iff tableGiven given]
  refine ⟨fun metadata member stored => ?_, fun descending => ?_, ?_⟩
  · have storedBehind :
        Scope.columnOf { dialect, metadata, qualifier := some table } member = .ok column := stored
    rw [Scope.column, Scope.column, stored, storedBehind]
    change Except.ok (dialect.columnText (some table) column) =
      .ok (dialect.tableText table ++ "." ++ dialect.columnText none column) ↔ _
    rw [Except.ok.injEq]
  · rw [sortTerm, sortTerm, ← String.append_assoc]
    exact String.append_left_inj _
  · unfold selectEntry
    simp only
    split
    · rfl
    · simp only [← String.append_assoc]
      rw [String.append_left_inj, String.append_left_inj, String.append_left_inj]

theorem display_name_prefixed :
    "dbo.Widgets" ≠ "" ∧ "display_name" ≠ "" ∧
      (⟨.postgres .keep, .percent⟩ : Dialect).selectEntry (some "dbo.Widgets") "display_name" =
        "\"dbo\".\"Widgets\".\"display_name\"" := by
  have keeps : (⟨.postgres .keep, .percent⟩ : Dialect).KeepsWhole "display_name" := by
    decide +kernel
  obtain ⟨_, _, entry⟩ := qualifier_prefixes_iff ⟨.postgres .keep, .percent⟩
    (by decide : "dbo.Widgets" ≠ "") (by decide : "display_name" ≠ "")
  exact ⟨by decide, by decide, (entry.mpr keeps).trans (by decide +kernel)⟩

/-- A column whose name has a dot. -/
def parcel : EntityType where
  name := "Parcel"
  shape := .closed
  fields := [Samples.field "Id" (.int 0), Samples.field "Width" (.int 0)]
  mapping := .declared {
    columns := [{ name := "Id", key := true }, { name := "Width", column := some "size.width" }] }

def parcelsByWidth : Query :=
  (Query.start ⟨.sqlite, .colon⟩ (some parcel)).orderBy (.text "Width")

/-- A join makes the column with the dot another one. -/
theorem parcel_width_torn :
    (⟨.sqlite, .colon⟩ : Dialect).selectEntry (some "Parcel") "size.width" ≠
        (⟨.sqlite, .colon⟩ : Dialect).tableText "Parcel" ++ "." ++
          (⟨.sqlite, .colon⟩ : Dialect).selectEntry none "size.width" ∧
      parcelsByWidth.compile.toOption.map (·.sql) = some
        "SELECT \"Id\", \"size.width\" FROM \"Parcel\" ORDER BY \"size.width\"" ∧
      (parcelsByWidth.join (some Samples.auditEntry) (.text "Id")
          (.text "Level")).compile.toOption.map (·.sql) = some
        ("SELECT \"Parcel\".\"Id\", \"Parcel\".\"size\".\"width\" FROM \"Parcel\" " ++
          "INNER JOIN \"AuditEntry\" ON \"Parcel\".\"Id\" = \"AuditEntry\".\"Level\" " ++
          "ORDER BY \"Parcel\".\"size\".\"width\"") := by
  refine ⟨?_, ?_, ?_⟩ <;> decide +kernel

end Dialect

end EntitySql
