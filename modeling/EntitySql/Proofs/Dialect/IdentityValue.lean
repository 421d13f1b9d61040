import EntitySql.Proofs.Dialect.FunctionCall
import EntitySql.Proofs.Dialect.Qualified

/-!
# Identity value expressions

The expression for the last identity value names the table and the column once more, in literals of
a call within a call.  The table is named as it is written elsewhere.  The column is named by its
folded text, which is what the database stores exactly if the name was not given in quotes.
-/

namespace EntitySql

open Sql (Argument readArgument readArguments EndsArgument readArgument_quoted)

/-- Reads a call whose only argument is a call: the two names, and the arguments of the inner
call. -/
def Sql.readNestedCall (text : String) : Option (String × String × List Argument) :=
  match text.toList.dropWhile (· ≠ '(') with
  | '(' :: inside =>
    match inside.dropWhile (· ≠ '(') with
    | '(' :: rest =>
      match readArguments rest with
      | some (arguments, [')']) =>
        some (.ofList (text.toList.takeWhile (· ≠ '(')), .ofList (inside.takeWhile (· ≠ '(')),
          arguments)
      | _ => none
    | _ => none
  | _ => none

theorem Sql.readNestedCall_call {text outer inner : String} {rest : List Char}
    {arguments : List Argument} (outerName : outer.toList.all (· ≠ '(') = true)
    (innerName : inner.toList.all (· ≠ '(') = true)
    (characters : text.toList = outer.toList ++ '(' :: (inner.toList ++ '(' :: rest))
    (read : readArguments rest = some (arguments, [')'])) :
    readNestedCall text = some (outer, inner, arguments) := by
  have outerName := List.all_eq_true.mp outerName
  have innerName := List.all_eq_true.mp innerName
  rw [readNestedCall, characters, List.takeWhile_append_of_pos outerName,
    List.dropWhile_append_of_pos outerName]
  simp only [ne_eq, not_true_eq_false, decide_false, Bool.false_eq_true, not_false_eq_true,
    List.takeWhile_cons_of_neg, List.dropWhile_cons_of_neg, List.append_nil]
  rw [List.takeWhile_append_of_pos innerName, List.dropWhile_append_of_pos innerName]
  simp [read]

/-- Two quoted arguments are read with their contents. -/
theorem Sql.readArguments_two (first second rest : List Char) :
    readArguments ('\'' :: (Text.doubleEach '\'' first ++ '\'' :: ',' :: ' ' :: '\'' ::
        (Text.doubleEach '\'' second ++ '\'' :: ')' :: rest))) =
      some ([.quoted (.ofList first), .quoted (.ofList second)], rest) := by
  have firstRead := readArgument_quoted first (by simp [EndsArgument] : EndsArgument
    (',' :: ' ' :: '\'' :: (Text.doubleEach '\'' second ++ '\'' :: ')' :: rest)))
  have secondRead := readArgument_quoted second (by simp [EndsArgument] : EndsArgument (')' :: rest))
  rw [readArguments_next firstRead, readArguments_last secondRead]
  rfl

namespace Dialect

variable {dialect : Dialect} {folding : Folding}

theorem readNestedCall_identityExpression (isPostgres : dialect.backend = .postgres folding)
    (table column : String) :
    Sql.readNestedCall (dialect.identityExpression table column) =
      some ("currval", "pg_get_serial_sequence",
        [.quoted (dialect.tableText table), .quoted (dialect.fold column)]) := by
  have read := Sql.readArguments_two (dialect.tableText table).toList (dialect.fold column).toList
    [')']
  rw [String.ofList_toList, String.ofList_toList] at read
  refine Sql.readNestedCall_call (by decide) (by decide) ?_ read
  rw [identityExpression, isPostgres]
  simp [Text.doubled]

/-- The content of a name that stays as it is differs from the folded name, which is longer. -/
theorem contentOf_identifier_iff (dialect : Dialect) {column : String} (given : column ≠ "") :
    dialect.delimiters.contentOf (dialect.identifier column) = some (dialect.fold column) ↔
      dialect.isDelimited column = false := by
  cases delimited : dialect.isDelimited column with
  | true =>
      rw [identifier_of_delimited delimited]
      refine iff_of_false (fun content => ?_) nofun
      have column_eq : column = dialect.delimiters.enclose (dialect.fold column) :=
        Text.Delimiters.contentOf_eq_some.mp content
      have longer := dialect.length_enclose_fold column
      rw [← column_eq] at longer
      exact Nat.lt_irrefl _ longer
  | false =>
      rw [identifier_of_not_delimited given delimited]
      exact iff_of_true (Text.Delimiters.contentOf_enclose _ _) rfl

/-- For every table and every column with a name, the expression for the last identity value is
read back as a call with two literals.  The first one holds the table as it is written elsewhere.
The second one holds the stored name of the column, the content of the quoted column, exactly if
the column does not start and end with the delimiters. -/
theorem identityExpression_names_column (folding : Folding) (style : PlaceholderStyle)
    (table column : String) (given : column ≠ "") :
    let dialect : Dialect := ⟨.postgres folding, style⟩
    ∃ named, Sql.readNestedCall (dialect.identityExpression table column) =
        some ("currval", "pg_get_serial_sequence",
          [.quoted (dialect.tableText table), .quoted named]) ∧
      (dialect.delimiters.contentOf (dialect.identifier column) = some named ↔
        dialect.isDelimited column = false) := by
  intro dialect
  exact ⟨dialect.fold column, readNestedCall_identityExpression rfl table column,
    dialect.contentOf_identifier_iff given⟩

/-- A column with quotes of both kinds, in a table whose schema is given in quotes. -/
theorem oddKey_named :
    let dialect : Dialect := ⟨.postgres .lower, .percent⟩
    "O'Key\"" ≠ "" ∧
      dialect.identityExpression "\"It's\".Orders" "O'Key\"" =
        "currval(pg_get_serial_sequence('\"It''s\".\"orders\"', 'o''key\"'))" ∧
      Sql.readNestedCall (dialect.identityExpression "\"It's\".Orders" "O'Key\"") =
        some ("currval", "pg_get_serial_sequence",
          [.quoted "\"It's\".\"orders\"", .quoted "o'key\""]) ∧
      dialect.delimiters.contentOf (dialect.identifier "O'Key\"") = some "o'key\"" := by
  intro dialect
  have given : "O'Key\"" ≠ "" := by decide
  obtain ⟨named, read, content⟩ :=
    identityExpression_names_column .lower .percent "\"It's\".Orders" "O'Key\"" given
  have stored : dialect.delimiters.contentOf (dialect.identifier "O'Key\"") = some "o'key\"" := by
    decide +kernel
  have isNamed : some "o'key\"" = some named := stored.symm.trans (content.mpr (by decide +kernel))
  have table : dialect.tableText "\"It's\".Orders" = "\"It's\".\"orders\"" := by decide +kernel
  rw [← Option.some.inj isNamed, table] at read
  exact ⟨given, by decide +kernel, read, stored⟩

/-- A column that is given in quotes keeps them where the column is named a second time, so another
column is named than the one that is written to. -/
theorem quoted_key_misnamed :
    let dialect : Dialect := ⟨.postgres .keep, .percent⟩
    "\"Id\"" ≠ "" ∧ dialect.identifier "\"Id\"" = "\"Id\"" ∧
      dialect.delimiters.contentOf (dialect.identifier "\"Id\"") = some "Id" ∧
      Sql.readNestedCall (dialect.identityExpression "Person" "\"Id\"") =
        some ("currval", "pg_get_serial_sequence", [.quoted "\"Person\"", .quoted "\"Id\""]) := by
  refine ⟨by decide, by decide +kernel, by decide +kernel, ?_⟩
  rw [readNestedCall_identityExpression rfl]
  decide +kernel

end Dialect

end EntitySql
