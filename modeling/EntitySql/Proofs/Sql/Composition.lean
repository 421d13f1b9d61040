import EntitySql.Proofs.Dialect.Identifier
import EntitySql.Proofs.Parameters
import EntitySql.Proofs.Sql.Woven

/-!
# The composition of statements

What the parts of SELECT, INSERT, UPDATE and DELETE statements mention, in the order
in which it stands in their texts.
-/

namespace EntitySql

open Sql (Mention Separated Woven WovenEach Batched isWording Closes Begins)

/-- Texts of which the first is not empty are not empty together. -/
theorem Sql.intercalate_cons_ne_empty {separator first : String} {rest : List String}
    (given : first ≠ "") : separator.intercalate (first :: rest) ≠ "" := by
  cases rest with
  | nil => simpa using given
  | cons next rest => simp [String.intercalate_cons_cons, given]

theorem Sql.isWording_of_isDigit {c : Char} (digit : c.isDigit = true) : isWording c = true := by
  have notCut : c ≠ ';' := by
    rintro rfl
    cases digit
  simp [isWording, isPlain, Char.isAlphanum, digit, notCut]

theorem Sql.closes_toString (number : Nat) : Closes (toString number) := by
  have digits : ∀ c ∈ (toString number).toList, c.isDigit = true := by
    rw [Nat.toString_eq_repr, Nat.toList_repr]
    exact fun c member => Nat.isDigit_of_mem_toDigits (by decide) (by decide) member
  have given : (toString number).toList ≠ [] := by simp [Nat.toString_eq_repr]
  refine ⟨List.all_eq_true.mpr fun c member => isWording_of_isDigit (digits c member), ?_⟩
  rw [List.getLast?_eq_some_getLast given]
  simpa using (Text.isWord_of_isDigit (digits _ (List.getLast_mem given))).2

theorem Sql.closes_toString_int (number : Int) : Closes (toString number) := by
  cases number with
  | ofNat number => exact closes_toString number
  | negSucc number =>
      have negated : Closes ("-" ++ toString (number + 1)) :=
        (closes_toString (number + 1)).behind (by decide)
      exact negated

namespace Dialect

variable {dialect : Dialect} {style : PlaceholderStyle} {condition other : String}
variable {mentions : List Mention}

/-! ## Parts of a SELECT -/

theorem sortTerm_woven (qualifier : Option String) (term : SortTerm) :
    Woven dialect style (dialect.sortTerm qualifier term)
      ((dialect.inStyle style).sortTerm qualifier term) [.column qualifier term.column] := by
  unfold sortTerm
  cases term.descending with
  | true => exact .mention (.column qualifier term.column) (by decide) (.ending _ (by decide))
  | false => simpa [Mention.text] using Woven.last (.column qualifier term.column)

/-- The clause for a number, if there is one. -/
theorem closes_clause (words : String) (plain : words.toList.all isWording = true)
    (limit : Option Nat) :
    ∀ part ∈ limit.toList.map fun count => words ++ toString count, Closes part := by
  intro part member
  obtain ⟨number, _, rfl⟩ := List.mem_map.mp member
  exact (Sql.closes_toString number).behind plain

theorem windowParts_closes (dialect : Dialect) (selection : Selection) :
    ∀ part ∈ dialect.windowParts selection, Closes part := by
  have between (before : String) (plain : before.toList.all isWording = true) (number : Nat)
      (after : String) (closes : Closes after) : Closes (before ++ toString number ++ after) := by
    refine closes.behind ?_
    rw [String.toList_append, List.all_append, plain, (Sql.closes_toString number).1]
    rfl
  unfold windowParts
  split
  · split
    · simp only [List.forall_mem_append, List.forall_mem_singleton, List.forall_mem_map]
      refine ⟨⟨?_, between "OFFSET " (by decide) _ " ROWS" (by decide)⟩,
        fun count _ => between "FETCH NEXT " (by decide) count " ROWS ONLY" (by decide)⟩
      split
      · simp only [List.forall_mem_singleton]
        decide
      · simp
    · simp
  · simp only [List.forall_mem_append]
    exact ⟨closes_clause "LIMIT " (by decide) _, closes_clause "OFFSET " (by decide) _⟩
  · split
    · simp only [List.forall_mem_append, List.forall_mem_singleton]
      refine ⟨?_, closes_clause "OFFSET " (by decide) _⟩
      cases selection.take with
      | none => decide
      | some count => exact (Sql.closes_toString count).behind (by decide)
    · simp

/-- A join mentions its table and the columns it compares. -/
theorem joinClause_woven (table owner name inner column : String) :
    let join : Join :=
      { table, leftColumn := owner ++ "." ++ name, rightColumn := inner ++ "." ++ column }
    Woven dialect style (dialect.joinClause join) ((dialect.inStyle style).joinClause join)
      [.table table, .joined owner name, .joined inner column] := by
  have right : Woven dialect style _ _ [.joined inner column] :=
    .words " = " (by decide) (.last (.joined inner column))
  have left := Woven.mention (.joined owner name)
    (Separated.append_of_ne (by decide) (by decide)) right
  have joined := Woven.words "INNER JOIN " (by decide)
    (.mention (.table table) (Separated.append_of_ne (by decide) (by decide))
      (.words " ON " (by decide) left))
  simpa [joinClause, String.append_assoc, Mention.text] using joined

theorem selectList_woven (selection : Selection) :
    Woven dialect style (dialect.selectList selection)
      ((dialect.inStyle style).selectList selection)
      (selection.columns.map (.entry selection.qualifier)) := by
  have entries : WovenEach dialect style
      (selection.columns.map (dialect.selectEntry selection.qualifier))
      (selection.columns.map ((dialect.inStyle style).selectEntry selection.qualifier))
      (selection.columns.map (.entry selection.qualifier)) :=
    .ofMentions (.entry selection.qualifier) selection.columns
  have sameEntries : (dialect.inStyle style).selectEntry = dialect.selectEntry := rfl
  simp only [selectList, sameEntries]
  split
  · rename_i empty
    -- entries without any text leave the star alone
    cases columns : selection.columns with
    | nil => exact .ending "*" (by decide)
    | cons column others =>
        have listed := entries.intercalate ", " (by decide) (by decide) (by decide)
          (by simp [columns])
        rw [sameEntries, String.isEmpty_iff.mp empty] at listed
        simpa [columns] using Woven.words "*" (by decide) listed
  · rename_i given
    refine entries.intercalate ", " (by decide) (by decide) (by decide) ?_
    rintro none
    simp [none] at given

/-- The clause mentions the column of each term. -/
theorem orderParts_woven (selection : Selection) :
    WovenEach dialect style (dialect.orderParts selection)
      ((dialect.inStyle style).orderParts selection)
      (selection.orderBy.map fun term => .column selection.qualifier term.column) := by
  unfold orderParts
  split
  · rename_i empty
    rw [List.isEmpty_iff.mp empty]
    exact .nil
  · rename_i given
    have terms : WovenEach dialect style
        (selection.orderBy.map (dialect.sortTerm selection.qualifier))
        (selection.orderBy.map ((dialect.inStyle style).sortTerm selection.qualifier))
        (selection.orderBy.flatMap fun term => [.column selection.qualifier term.column]) :=
      .map fun term _ => sortTerm_woven selection.qualifier term
    rw [← List.map_eq_flatMap] at terms
    have listed := terms.intercalate ", " (by decide) (by decide) (by decide)
      (by simpa using given)
    exact .singleton (.words "ORDER BY " (by decide) listed)

theorem conditionParts_woven (woven : Woven dialect style condition other mentions)
    (given : condition ≠ "" ∧ other ≠ "") :
    WovenEach dialect style (conditionParts (some condition)) (conditionParts (some other))
      mentions := by
  rw [conditionParts, conditionParts, if_neg (by simpa using given.1),
    if_neg (by simpa using given.2)]
  exact .singleton (.words "WHERE " (by decide) woven)

/-- A SELECT mentions its entries, its source, its joins, what its condition mentions
and the columns it is ordered by. -/
theorem selectFrom_woven (selection : Selection) {source sourceOther : String}
    {condition other : Option String} {sourceMentions joinMentions conditionMentions : List Mention}
    (sourceWoven : Woven dialect style source sourceOther sourceMentions)
    (joinsWoven : WovenEach dialect style (selection.joins.map dialect.joinClause)
      (selection.joins.map (dialect.inStyle style).joinClause) joinMentions)
    (conditionWoven : WovenEach dialect style (conditionParts condition) (conditionParts other)
      conditionMentions) :
    Woven dialect style (dialect.selectFrom { selection with condition := condition } source)
      ((dialect.inStyle style).selectFrom { selection with condition := other } sourceOther)
      (selection.columns.map (.entry selection.qualifier) ++ sourceMentions ++
        joinMentions ++ conditionMentions ++
        selection.orderBy.map fun term => .column selection.qualifier term.column) := by
  have head : WovenEach dialect style
      ["SELECT " ++ dialect.selectList selection, "FROM " ++ source]
      ["SELECT " ++ (dialect.inStyle style).selectList selection, "FROM " ++ sourceOther]
      (selection.columns.map (.entry selection.qualifier) ++ sourceMentions) := by
    have second := WovenEach.singleton (.words "FROM " (by decide) sourceWoven)
    exact .cons (.words "SELECT " (by decide) (selectList_woven selection)) second
  have window : WovenEach dialect style (dialect.windowParts selection)
      ((dialect.inStyle style).windowParts selection) [] :=
    .ofWords (windowParts_closes dialect selection)
  have parts := (((head.append joinsWoven).append conditionWoven).append
    (orderParts_woven selection)).append window
  rw [List.append_nil] at parts
  exact parts.intercalate " " (by decide) (by decide) (by decide) (by simp)

theorem begins_selectFrom (selection : Selection) (source : String) :
    Begins (dialect.selectFrom selection source) :=
  Begins.intercalate (Begins.append (by decide))

/-- Reading rows back mentions their table and what the condition mentions. -/
theorem selectWhole_woven (table : String) (woven : Woven dialect style condition other mentions)
    (given : condition ≠ "" ∧ other ≠ "") :
    Woven dialect style (dialect.selectWhole table condition)
      ((dialect.inStyle style).selectWhole table other) (.table table :: mentions) := by
  have whole := selectFrom_woven { source := .table table } (.last (.table table)) .nil
    (conditionParts_woven woven given)
  simpa [selectWhole, Mention.text] using whole

/-! ## Mutations -/

theorem equation_woven (pair : String × String) :
    Woven dialect style (dialect.equation pair) ((dialect.inStyle style).equation pair)
      [.column none pair.1, .parameter pair.2] := by
  have value : Woven dialect style _ _ [.parameter pair.2] :=
    .words " = " (by decide) (.last (.parameter pair.2))
  have equation := Woven.mention (.column none pair.1)
    (Separated.append_of_ne (by decide) (by decide)) value
  simpa [Dialect.equation, Mention.text, columnText, String.append_assoc] using equation

/-- Columns and the parameters they are equated with. -/
def equationMentions (pairs : List (String × String)) : List Mention :=
  pairs.flatMap fun pair => [.column none pair.1, .parameter pair.2]

theorem equations_woven {pairs : List (String × String)} (given : pairs ≠ []) :
    Woven dialect style (dialect.equations pairs) ((dialect.inStyle style).equations pairs)
      (equationMentions pairs) := by
  have each : WovenEach dialect style (pairs.map dialect.equation)
      (pairs.map (dialect.inStyle style).equation) (equationMentions pairs) :=
    .map fun pair _ => equation_woven pair
  exact each.intercalate " AND " (by decide) (by decide) (by decide) (by simpa using given)

theorem equations_ne_empty {pairs : List (String × String)} (given : pairs ≠ []) :
    dialect.equations pairs ≠ "" := by
  cases pairs with
  | nil => exact absurd rfl given
  | cons pair rest => exact Sql.intercalate_cons_ne_empty (by simp [equation])

theorem chosenCondition_some {text : String} (equations : String) (given : text ≠ "") :
    chosenCondition (some text) equations = text := by
  simp [chosenCondition, given]

/-- A line with a condition behind it. -/
theorem restricted_woven {line lineOther : String} {lineMentions : List Mention}
    (lineWoven : Woven dialect style line lineOther lineMentions)
    (woven : Woven dialect style condition other mentions) (given : condition ≠ "" ∧ other ≠ "") :
    Woven dialect style (line ++ whereSuffix condition) (lineOther ++ whereSuffix other)
      (lineMentions ++ mentions) := by
  rw [whereSuffix, whereSuffix, if_neg (by simpa using given.1), if_neg (by simpa using given.2)]
  exact lineWoven.append (.words " WHERE " (by decide) woven)
    (Separated.append_of_ne (by decide) (by decide))

/-- A table, its columns and the parameters of their values. -/
def insertMentions (table : String) (bound : List (String × String)) : List Mention :=
  .table table :: (bound.map fun pair => .column none pair.1) ++
    bound.map fun pair => .parameter pair.2

theorem writeInsert_woven (table : String) (bound : List (String × String)) :
    Woven dialect style (dialect.writeInsert table (bound.map (·.1)) (bound.map (·.2)))
      ((dialect.inStyle style).writeInsert table (bound.map (·.1)) (bound.map (·.2)))
      (insertMentions table bound) := by
  unfold writeInsert insertLine insertMentions
  cases bound with
  | nil =>
      have target : Woven dialect style _ _ [.table table] :=
        .words "INSERT INTO " (by decide)
          (.mention (.table table) (by decide) (.ending " DEFAULT VALUES" (by decide)))
      simpa [Mention.text, String.append_assoc] using target
  | cons pair rest =>
      have columns : WovenEach dialect style _ _ _ :=
        .ofMentions (fun pair : String × String => .column none pair.1) (pair :: rest)
      have values : WovenEach dialect style _ _ _ :=
        .ofMentions (fun pair : String × String => .parameter pair.2) (pair :: rest)
      have listed := columns.intercalate ", " (by decide) (by decide) (by decide) (by simp)
      have filled := listed.append
        (.words ") VALUES (" (by decide)
          (values.intercalate ", " (by decide) (by decide) (by decide) (by simp)).closed)
        (Separated.append_of_ne (by decide) (by decide))
      have target := Woven.words "INSERT INTO " (by decide)
        (.mention (.table table) (Separated.append_of_ne (by decide) (by decide))
          (.words " (" (by decide) filled))
      simpa [Mention.text, columnText, String.append_assoc, Function.comp_def] using target

theorem begins_writeInsert (table : String) (columns parameters : List String) :
    Begins (dialect.writeInsert table columns parameters) := by
  have target : Begins ("INSERT INTO " ++ dialect.tableText table) := .append (by decide)
  unfold writeInsert insertLine
  split
  · exact target.append
  · exact target.append.append.append.append.append

theorem begins_updateLine (target : String) (assignments : List String) (condition : String) :
    Begins (updateLine target assignments condition) := by
  have line : Begins ("UPDATE " ++ target) := .append (by decide)
  exact line.append.append.append

theorem begins_deleteLine (target condition : String) : Begins (deleteLine target condition) := by
  have line : Begins ("DELETE FROM " ++ target) := .append (by decide)
  exact line.append

theorem deleteTarget_woven (table : String) :
    Woven dialect style ("DELETE FROM " ++ dialect.tableText table)
      ("DELETE FROM " ++ (dialect.inStyle style).tableText table) [.table table] :=
  .words "DELETE FROM " (by decide) (.last (.table table))

/-- A DELETE by keys, which may be none. -/
theorem writeDelete_woven (table : String) (pairs : List (String × String)) :
    Woven dialect style (dialect.writeDelete table pairs none)
      ((dialect.inStyle style).writeDelete table pairs none)
      (.table table :: equationMentions pairs) := by
  by_cases given : pairs = []
  · subst given
    simpa [writeDelete, chosenCondition, equations, deleteLine, whereSuffix, equationMentions] using
      deleteTarget_woven table
  · exact restricted_woven (deleteTarget_woven table) (equations_woven given)
      ⟨equations_ne_empty given, equations_ne_empty given⟩

/-- An UPDATE mentions its table, the columns it sets with their parameters, and what
its condition mentions. -/
theorem updateLine_woven (table : String) {assignments : List (String × String)}
    (assigned : assignments ≠ []) (woven : Woven dialect style condition other mentions)
    (given : condition ≠ "" ∧ other ≠ "") :
    Woven dialect style
      (updateLine (dialect.tableText table) (assignments.map dialect.equation) condition)
      (updateLine ((dialect.inStyle style).tableText table)
        (assignments.map (dialect.inStyle style).equation) other)
      (.table table :: equationMentions assignments ++ mentions) := by
  have each : WovenEach dialect style (assignments.map dialect.equation)
      (assignments.map (dialect.inStyle style).equation) (equationMentions assignments) :=
    .map fun pair _ => equation_woven pair
  have listed := each.intercalate ", " (by decide) (by decide) (by decide) (by simpa using assigned)
  have line := Woven.words "UPDATE " (by decide)
    (.mention (.table table) (Separated.append_of_ne (by decide) (by decide))
      (.words " SET " (by decide) listed))
  simpa [updateLine, Mention.text, String.append_assoc] using restricted_woven line woven given

/-- The table, the columns that are set, what the condition mentions, and the keys that the
row is read back by. -/
def updateMentions (table : String) (assignments : List (String × String))
    (condition : List Mention) (readsBack : Bool) (keys : List (String × String)) : List Mention :=
  .table table :: equationMentions assignments ++ condition ++
    if readsBack && !keys.isEmpty then .table table :: equationMentions keys else []

/-- An UPDATE, with the SELECT behind it if the row has keys by which it is read back. -/
theorem writeUpdate_batched (table : String)
    {assignments pairs keys : List (String × String)} (unread : List (String × String))
    (readsBack : Bool) {condition conditionOther : Option String} (assigned : assignments ≠ [])
    (woven : Woven dialect style (chosenCondition condition (dialect.equations pairs))
      (chosenCondition conditionOther ((dialect.inStyle style).equations pairs)) mentions)
    (given : chosenCondition condition (dialect.equations pairs) ≠ "" ∧
      chosenCondition conditionOther ((dialect.inStyle style).equations pairs) ≠ "") :
    Batched dialect style (readsBack && !keys.isEmpty)
      (dialect.writeUpdate table assignments pairs false unread condition)
      (dialect.writeUpdate table assignments pairs readsBack keys condition)
      ((dialect.inStyle style).writeUpdate table assignments pairs readsBack keys conditionOther)
      (updateMentions table assignments mentions readsBack keys) := by
  have line := updateLine_woven table assigned woven given
  have begins := begins_updateLine (dialect.tableText table) (assignments.map dialect.equation)
    (chosenCondition condition (dialect.equations pairs))
  simp only [writeUpdate, updateMentions, Bool.false_and, Bool.false_eq_true, if_false,
    String.append_empty]
  cases wanted : readsBack && !keys.isEmpty with
  | false =>
      simp only [Bool.false_eq_true, if_false, String.append_empty, List.append_nil]
      exact .alone begins line
  | true =>
      simp only [Bool.and_eq_true, Bool.not_eq_true', List.isEmpty_eq_false_iff] at wanted
      simp only [if_true, ← String.append_assoc]
      exact .followed begins line ⟨_, _, rfl⟩
        (selectWhole_woven table (equations_woven wanted.2)
          ⟨equations_ne_empty wanted.2, equations_ne_empty wanted.2⟩)

end Dialect

end EntitySql
