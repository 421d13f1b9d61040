import EntitySql.Proofs.Dialect.Qualified

/-!
# The labels of selected columns

The label of an entry of the select list is its alias, or else the last name of its path.  A column
that is not quoted already comes back under its own name exactly if the table in front of it reads
as a path: a name that only starts and ends with the delimiters swallows what follows it.
-/

namespace EntitySql

open Text (unquoteAfter doubleEach)

namespace Text.Delimiters

variable {delimiters : Delimiters} {text : List Char} {rest : List Char} {name : String}

/-- Quoted names with dots between them, some of which may be left out. -/
def pathOf (delimiters : Delimiters) (names : List (Option String)) : String :=
  ".".intercalate (names.map fun name => name.elim "" delimiters.enclose)

/-- Reads a path of quoted names from left to right, and gives the last one and what is left
over. -/
def readLast (delimiters : Delimiters) (text : List Char) : Option (List Char × List Char) :=
  match text with
  | [] => none
  | c :: rest =>
    if c = '.' then readLast delimiters rest
    else if c = delimiters.opening then
      match _read : unquoteAfter delimiters.closing rest with
      | some (_, '.' :: later) => readLast delimiters later
      | read => read
    else none
termination_by text.length
decreasing_by
  · simp
  · have shorter := length_of_unquoteAfter _read
    simp only [List.length_cons] at shorter ⊢
    omega

theorem readLast_dot : readLast delimiters ('.' :: text) = readLast delimiters text := by
  rw [readLast, if_pos rfl]

theorem readLast_name (apart : delimiters.opening ≠ '.')
    (ends : rest.head? ≠ some delimiters.closing) (last : rest.head? ≠ some '.') :
    readLast delimiters ((delimiters.enclose name).toList ++ rest) = some (name.toList, rest) := by
  have read := unquoteAfter_doubleEach delimiters.closing name.toList rest ends
  rw [toList_enclose, List.cons_append, List.append_assoc, List.singleton_append, readLast,
    if_neg apart, if_pos rfl]
  split
  · rename_i content later again
    rw [read] at again
    cases again
    exact absurd rfl last
  · exact read

theorem readLast_before (apart : delimiters.opening ≠ '.') (lone : delimiters.closing ≠ '.') :
    readLast delimiters ((delimiters.enclose name).toList ++ '.' :: rest) =
      readLast delimiters rest := by
  have read := unquoteAfter_doubleEach delimiters.closing name.toList ('.' :: rest)
    (by simpa using lone.symm)
  rw [toList_enclose, List.cons_append, List.append_assoc, List.singleton_append, readLast,
    if_neg apart, if_pos rfl]
  split
  · rename_i content later again
    rw [read] at again
    cases again
    rfl
  · rename_i others
    exact absurd read (others _ _)

theorem pathOf_cons {names : List (Option String)} (given : names ≠ []) (first : Option String) :
    delimiters.pathOf (first :: names) =
      first.elim "" delimiters.enclose ++ "." ++ delimiters.pathOf names := by
  rw [pathOf, List.map_cons, String.intercalate_cons_of_ne_nil (by simpa using given)]
  rfl

theorem pathOf_concat {names : List (Option String)} (given : names ≠ []) (name : String) :
    delimiters.pathOf (names ++ [some name]) =
      delimiters.pathOf names ++ "." ++ delimiters.enclose name := by
  rw [pathOf, List.map_append,
    String.intercalate_append_of_ne_nil (by simpa using given) (by simp)]
  simp [pathOf]

/-- The last name of a path is read, whatever follows. -/
theorem readLast_pathOf (apart : delimiters.opening ≠ '.') (lone : delimiters.closing ≠ '.')
    (ends : rest.head? ≠ some delimiters.closing) (last : rest.head? ≠ some '.')
    (names : List (Option String)) :
    readLast delimiters ((delimiters.pathOf (names ++ [some name])).toList ++ rest) =
      some (name.toList, rest) := by
  induction names with
  | nil => simpa [pathOf] using readLast_name apart ends last
  | cons first names ih =>
      have dotted : (delimiters.pathOf (first :: names ++ [some name])).toList ++ rest =
          (first.elim "" delimiters.enclose).toList ++
            '.' :: ((delimiters.pathOf (names ++ [some name])).toList ++ rest) := by
        rw [List.cons_append, pathOf_cons (by simp)]
        simp
      rw [dotted]
      cases first with
      | none => exact readLast_dot.trans ih
      | some first => exact (readLast_before apart lone).trans ih

/-- Nothing else is read so. -/
theorem pathOf_of_readLast {content : List Char}
    (read : readLast delimiters text = some (content, rest)) :
    ∃ names, text = (delimiters.pathOf (names ++ [some (String.ofList content)])).toList ++ rest ∧
      rest.head? ≠ some '.' := by
  fun_induction readLast delimiters text with
  | case1 => cases read
  | case2 later ih =>
      obtain ⟨names, rfl, last⟩ := ih read
      refine ⟨none :: names, ?_, last⟩
      rw [List.cons_append, pathOf_cons (by simp)]
      simp
  | case3 later first inner unquoted apart ih =>
      obtain ⟨names, inner_eq, last⟩ := ih read
      obtain ⟨later_eq, _⟩ := eq_of_unquoteAfter unquoted
      refine ⟨some (String.ofList first) :: names, ?_, last⟩
      rw [later_eq, inner_eq, List.cons_append, pathOf_cons (by simp)]
      simp
  | case4 later apart others =>
      obtain ⟨later_eq, _⟩ := eq_of_unquoteAfter read
      refine ⟨[], by simp [pathOf, later_eq], fun dotted => ?_⟩
      obtain ⟨inner, rfl⟩ := List.head?_eq_some_iff.mp dotted
      exact others _ _ read
  | case5 => cases read

/-- Reads the label of an entry of a select list: its alias, or else the last name of its path. -/
def labelOf (delimiters : Delimiters) (entry : String) : Option String :=
  match readLast delimiters entry.toList with
  | some (content, []) => some (String.ofList content)
  | some (_, ' ' :: 'A' :: 'S' :: ' ' :: given) => delimiters.contentOf (String.ofList given)
  | _ => none

/-- An entry is a path that ends with its label, or one with its label as an alias. -/
def HasLabel (delimiters : Delimiters) (entry label : String) : Prop :=
  ∃ names, entry = delimiters.pathOf (names ++ [some label]) ∨
    ∃ name, entry = delimiters.pathOf (names ++ [some name]) ++ " AS " ++ delimiters.enclose label

theorem labelOf_eq_some (apart : delimiters.opening ≠ '.') (lone : delimiters.closing ≠ '.')
    (noBlank : delimiters.closing ≠ ' ') {entry label : String} :
    delimiters.labelOf entry = some label ↔ delimiters.HasLabel entry label := by
  constructor
  · intro labelled
    unfold labelOf at labelled
    split at labelled
    · rename_i content read
      cases labelled
      obtain ⟨names, entry_eq, _⟩ := pathOf_of_readLast read
      exact ⟨names, .inl (String.toList_inj.mp (by simpa using entry_eq))⟩
    · rename_i content given read
      obtain ⟨names, entry_eq, _⟩ := pathOf_of_readLast read
      have given_eq := contentOf_eq_some.mp labelled
      refine ⟨names, .inr ⟨String.ofList content, String.toList_inj.mp ?_⟩⟩
      rw [entry_eq, ← given_eq]
      simp
    · cases labelled
  · rintro ⟨names, rfl | ⟨name, rfl⟩⟩
    · have read : readLast delimiters
          ((delimiters.pathOf (names ++ [some label])).toList ++ []) = some (label.toList, []) :=
        readLast_pathOf apart lone (by simp) (by simp) names
      rw [List.append_nil] at read
      rw [labelOf, read]
      exact congrArg some String.ofList_toList
    · have read : readLast delimiters ((delimiters.pathOf (names ++ [some name])).toList ++
            (" AS ".toList ++ (delimiters.enclose label).toList)) =
          some (name.toList, " AS ".toList ++ (delimiters.enclose label).toList) :=
        readLast_pathOf apart lone (by simpa using noBlank.symm) (by simp) names
      rw [labelOf, String.toList_append, String.toList_append, List.append_assoc, read]
      change delimiters.contentOf (String.ofList (delimiters.enclose label).toList) = some label
      rw [String.ofList_toList, contentOf_enclose]

/-! ## Paths in front of a name -/

/-- A text is a path of quoted names, some of which may be left out. -/
def IsPath (delimiters : Delimiters) (text : String) : Prop :=
  ∃ names, names ≠ [] ∧ text = delimiters.pathOf names

/-- Where a quotation ends is not moved by what follows behind a dot. -/
theorem enclose_append_inj (lone : delimiters.closing ≠ '.') {first second rest other : String}
    (same : delimiters.enclose first ++ "." ++ rest = delimiters.enclose second ++ "." ++ other) :
    rest = other := by
  have characters := congrArg String.toList same
  simp only [toList_enclose, String.toList_append, List.cons_append, List.append_assoc,
    List.nil_append, List.cons.injEq, true_and] at characters
  have read := unquoteAfter_doubleEach delimiters.closing first.toList (".".toList ++ rest.toList)
    (by simpa using lone.symm)
  rw [characters, unquoteAfter_doubleEach _ _ _ (by simpa using lone.symm)] at read
  simp only [Option.some.injEq, Prod.mk.injEq, List.append_cancel_left_eq] at read
  exact (String.toList_inj.mp read.2).symm

/-- Between characters that are alike, where the last quotation starts behind a dot is not moved by
what stands before it. -/
theorem append_enclose_inj (alike : delimiters.opening = delimiters.closing)
    (lone : delimiters.closing ≠ '.') {first second leading other : String}
    (same : leading ++ "." ++ delimiters.enclose first =
      other ++ "." ++ delimiters.enclose second) : leading = other := by
  have reversed : delimiters.enclose (String.ofList first.toList.reverse) ++ "." ++
        String.ofList leading.toList.reverse =
      delimiters.enclose (String.ofList second.toList.reverse) ++ "." ++
        String.ofList other.toList.reverse := by
    apply String.toList_inj.mp
    have characters := congrArg (·.toList.reverse) same
    simpa [alike, doubleEach_reverse] using characters
  exact String.toList_inj.mp
    (List.reverse_inj.mp (String.ofList_inj.mp (enclose_append_inj lone reversed)))

variable {label leading separator : String} {names : List (Option String)}

/-- What stands before the last name of a path, if anything does, is a path and a dot. -/
theorem append_eq_of_pathOf (separated : separator ≠ "")
    (same : leading ++ separator ++ delimiters.enclose label =
      delimiters.pathOf (names ++ [some label])) :
    names ≠ [] ∧ leading ++ separator = delimiters.pathOf names ++ "." := by
  have given : names ≠ [] := by
    rintro rfl
    have longer := congrArg String.length same
    simp [pathOf, separated] at longer
  rw [pathOf_concat given] at same
  exact ⟨given, (String.append_left_inj _).mp same⟩

theorem append_dot_ne_append_as (leading other : String) : leading ++ "." ≠ other ++ " AS " := by
  intro same
  have last := congrArg (·.toList.getLast?) same
  simp [List.getLast?_append] at last

theorem hasLabel_behind :
    delimiters.HasLabel (leading ++ "." ++ delimiters.enclose label) label ↔
      delimiters.IsPath leading := by
  constructor
  · rintro ⟨names, same | ⟨name, same⟩⟩
    · obtain ⟨given, before⟩ := append_eq_of_pathOf (by decide) same
      exact ⟨names, given, (String.append_left_inj _).mp before⟩
    · exact absurd ((String.append_left_inj _).mp same) (append_dot_ne_append_as _ _)
  · rintro ⟨names, given, rfl⟩
    exact ⟨names, .inl (pathOf_concat given label).symm⟩

theorem hasLabel_aliased (alike : delimiters.opening = delimiters.closing)
    (lone : delimiters.closing ≠ '.') :
    delimiters.HasLabel
        (leading ++ "." ++ delimiters.enclose name ++ " AS " ++ delimiters.enclose label) label ↔
      delimiters.IsPath leading := by
  constructor
  · rintro ⟨names, same | ⟨other, same⟩⟩
    · obtain ⟨_, before⟩ := append_eq_of_pathOf (by decide) same
      exact absurd before.symm (append_dot_ne_append_as _ _)
    · -- read from behind, the name in front of the alias is the last one of the path
      have path := (String.append_left_inj _).mp ((String.append_left_inj _).mp same)
      by_cases given : names = []
      · subst given
        have quoted : delimiters.enclose other = leading ++ "." ++ delimiters.enclose name := by
          simpa [pathOf] using path.symm
        exact absurd quoted (enclose_ne_append_enclose alike lone _ _ _)
      · exact ⟨names, given, append_enclose_inj alike lone (path.trans (pathOf_concat given other))⟩
  · rintro ⟨names, given, rfl⟩
    exact ⟨names, .inr ⟨name, by rw [pathOf_concat given]⟩⟩

end Text.Delimiters

/-! ## Entries of a select list -/

namespace Dialect

variable {dialect : Dialect} {column table : String} {qualifier : Option String}

theorem closing_ne_blank (dialect : Dialect) : dialect.delimiters.closing ≠ ' ' :=
  closing_ne (by decide) (by decide)

theorem labelOf_eq_some {entry label : String} :
    dialect.delimiters.labelOf entry = some label ↔ dialect.delimiters.HasLabel entry label :=
  Text.Delimiters.labelOf_eq_some dialect.opening_ne_dot dialect.closing_ne_dot
    dialect.closing_ne_blank

/-- There is an alias exactly where folding changes the name. -/
theorem selectEntry_cases (given : column ≠ "") (notDelimited : dialect.isDelimited column = false)
    (qualifier : Option String) :
    (dialect.fold column = column ∧
        dialect.selectEntry qualifier column = dialect.columnText qualifier column) ∨
      (dialect.delimiters.opening = dialect.delimiters.closing ∧
        dialect.selectEntry qualifier column =
          dialect.columnText qualifier column ++ " AS " ++ dialect.delimiters.enclose column) := by
  by_cases stays : dialect.fold column = column
  · exact .inl ⟨stays, by simp [selectEntry, stays]⟩
  · by_cases alike : dialect.delimiters.opening = dialect.delimiters.closing
    · refine .inr ⟨alike, (dialect.selectEntry_eq qualifier column).resolve_left fun bare => ?_⟩
      have longer := congrArg String.length bare
      have quote : ("\"" : String).length = 1 := by decide
      simp [selectEntry, given, notDelimited, stays] at longer
      omega
    · exact absurd (dialect.fold_of_brackets alike column) stays

/-- Every segment of a table is a name or left out, where delimited ones are quoted well. -/
theorem elim_contentOf_identifier {segment : String}
    (wellQuoted : dialect.isDelimited segment = true → dialect.delimiters.IsQuoted segment) :
    (dialect.delimiters.contentOf (dialect.identifier segment)).elim ""
      dialect.delimiters.enclose = dialect.identifier segment := by
  by_cases given : segment = ""
  · subst given
    rfl
  · cases delimited : dialect.isDelimited segment with
    | false =>
        rw [identifier_of_not_delimited given delimited, Text.Delimiters.contentOf_enclose]
        rfl
    | true =>
        obtain ⟨content, rfl⟩ := Text.Delimiters.isQuoted_iff.mp (wellQuoted delimited)
        rw [identifier_of_delimited delimited, Text.Delimiters.contentOf_enclose]
        rfl

theorem isPath_tableText
    (wellQuoted : ∀ segment ∈ segments table, dialect.isDelimited segment = true →
      dialect.delimiters.IsQuoted segment) :
    dialect.delimiters.IsPath (dialect.tableText table) := by
  refine ⟨(segments table).map fun segment =>
      dialect.delimiters.contentOf (dialect.identifier segment), ?_, ?_⟩
  · simp [segments, List.splitOn, List.splitOnP_ne_nil]
  · rw [tableText, Text.Delimiters.pathOf, List.map_map]
    exact congrArg _ (List.map_congr_left fun segment isSegment =>
      (elim_contentOf_identifier (wellQuoted segment isSegment)).symm)

theorem columnText_behind (tableGiven : table ≠ "") (given : column ≠ "")
    (notDelimited : dialect.isDelimited column = false) (undotted : '.' ∉ column.toList) :
    dialect.columnText (some table) column =
      dialect.tableText table ++ "." ++ dialect.delimiters.enclose (dialect.fold column) := by
  have nonempty : table.isEmpty = false := String.isEmpty_eq_false_iff.mpr tableGiven
  simp only [columnText, nonempty]
  rw [if_neg (by simp), tableText_append, tableText_of_undotted undotted,
    identifier_of_not_delimited given notDelimited]

theorem columnText_alone (noTable : ∀ table ∈ qualifier, table = "") (given : column ≠ "")
    (notDelimited : dialect.isDelimited column = false) :
    dialect.columnText qualifier column = dialect.delimiters.enclose (dialect.fold column) := by
  cases qualifier with
  | none => exact identifier_of_not_delimited given notDelimited
  | some table =>
      rw [noTable table rfl, columnText, if_pos (by decide),
        identifier_of_not_delimited given notDelimited]

theorem isPath_empty (dialect : Dialect) :
    dialect.delimiters.IsPath (dialect.tableText "") := by
  refine isPath_tableText fun segment isSegment delimited => ?_
  obtain rfl : segment = "" := List.mem_singleton.mp isSegment
  exact absurd delimited (by simp [isDelimited, Text.Delimiters.enclosed])

theorem hasLabel_alone (given : column ≠ "") (notDelimited : dialect.isDelimited column = false)
    (noTable : ∀ table ∈ qualifier, table = "") :
    dialect.delimiters.HasLabel (dialect.selectEntry qualifier column) column := by
  have alone := columnText_alone noTable given notDelimited
  rcases selectEntry_cases given notDelimited qualifier with ⟨stays, entry⟩ | ⟨_, entry⟩
  · exact ⟨[], .inl (by simp [entry, alone, stays, Text.Delimiters.pathOf])⟩
  · exact ⟨[], .inr ⟨dialect.fold column, by simp [entry, alone, Text.Delimiters.pathOf]⟩⟩

theorem hasLabel_behind_iff (tableGiven : table ≠ "") (given : column ≠ "")
    (notDelimited : dialect.isDelimited column = false) (undotted : '.' ∉ column.toList) :
    dialect.delimiters.HasLabel (dialect.selectEntry (some table) column) column ↔
      dialect.delimiters.IsPath (dialect.tableText table) := by
  have behind := columnText_behind tableGiven given notDelimited undotted
  rcases selectEntry_cases given notDelimited (some table) with ⟨stays, entry⟩ | ⟨alike, entry⟩
  · rw [entry, behind, stays]
    exact Text.Delimiters.hasLabel_behind
  · rw [entry, behind]
    exact Text.Delimiters.hasLabel_aliased alike dialect.closing_ne_dot

/-- A selected column comes back under its declared name exactly if what stands in front of it
reads as a path, as it does without a table and for a table that is quoted well. -/
theorem selectEntry_label (dialect : Dialect) (given : column ≠ "")
    (notDelimited : dialect.isDelimited column = false)
    (undotted : ∀ table ∈ qualifier, table ≠ "" → '.' ∉ column.toList) :
    (dialect.delimiters.labelOf (dialect.selectEntry qualifier column) = some column ↔
      ∀ table ∈ qualifier, dialect.delimiters.IsPath (dialect.tableText table)) ∧
    ((∀ table ∈ qualifier, ∀ segment ∈ segments table, dialect.isDelimited segment = true →
        dialect.delimiters.IsQuoted segment) →
      dialect.delimiters.labelOf (dialect.selectEntry qualifier column) = some column) := by
  have labelled : dialect.delimiters.labelOf (dialect.selectEntry qualifier column) = some column ↔
      ∀ table ∈ qualifier, dialect.delimiters.IsPath (dialect.tableText table) := by
    rw [labelOf_eq_some]
    by_cases noTable : ∀ table ∈ qualifier, table = ""
    · refine iff_of_true (hasLabel_alone given notDelimited noTable) fun table isQualifier => ?_
      rw [noTable table isQualifier]
      exact dialect.isPath_empty
    · obtain ⟨table, rfl, tableGiven⟩ : ∃ table ∈ qualifier, table ≠ "" := by simpa using noTable
      rw [hasLabel_behind_iff tableGiven given notDelimited (undotted table rfl tableGiven)]
      simp
  exact ⟨labelled, fun wellQuoted => labelled.mpr fun table isQualifier =>
    isPath_tableText (wellQuoted table isQualifier)⟩

/-- An alias and a path in which one name was given in quotes. -/
theorem given_name_labelled :
    let dialect : Dialect := ⟨.postgres .lowerSnake, .percent⟩
    dialect.selectEntry (some "\"Sales\".Customer") "Given \"Name\"" =
        "\"Sales\".\"customer\".\"given_\"\"name\"\"\" AS \"Given \"\"Name\"\"\"" ∧
      dialect.delimiters.labelOf
        (dialect.selectEntry (some "\"Sales\".Customer") "Given \"Name\"") =
        some "Given \"Name\"" := by
  intro dialect
  refine ⟨by decide +kernel, ?_⟩
  refine (selectEntry_label dialect (by decide) (by decide +kernel) fun _ _ _ => by decide).2 ?_
  intro table isQualifier
  cases isQualifier
  decide +kernel

/-- A table that only starts and ends with brackets is one name together with its column. -/
theorem bracketed_table_swallows_label :
    let dialect : Dialect := ⟨.sqlServer, .atSign⟩
    "Total" ≠ "" ∧ dialect.isDelimited "Total" = false ∧ '.' ∉ "Total".toList ∧
      dialect.selectEntry (some "[Orders [2024]]") "Total" = "[Orders [2024]].[Total]" ∧
      dialect.delimiters.labelOf (dialect.selectEntry (some "[Orders [2024]]") "Total") =
        some "Orders [2024].[Total" := by
  intro dialect
  have entry : dialect.selectEntry (some "[Orders [2024]]") "Total" = "[Orders [2024]].[Total]" := by
    decide +kernel
  refine ⟨by decide, by decide +kernel, by decide, entry, ?_⟩
  rw [entry]
  exact labelOf_eq_some.mpr ⟨[], .inl (by decide +kernel)⟩

end Dialect

end EntitySql
