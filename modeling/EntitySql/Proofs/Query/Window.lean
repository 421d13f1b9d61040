import EntitySql.Proofs.Query.Meaning

/-!
# Windows

A query leaves out as many rows as its last skip says and keeps as many of the others as its last
take says.  The clause for this is read here in the syntax of its dialect.  Every dialect writes the
same window: a count of zero is written like any other, and only a query without any counts has no
clause.
-/

namespace EntitySql

/-- How many rows are left out in front, and how many of the others are kept, if not all. -/
structure Window where
  skip : Nat := 0
  take : Option Nat := none
  deriving DecidableEq, Repr

/-- The rows in a window. -/
def Window.rows {α : Type} (window : Window) (rows : List α) : List α :=
  match window.take with
  | none => rows.drop window.skip
  | some count => (rows.drop window.skip).take count

theorem Window.rows_eq_nil {α : Type} {window : Window} (empty : window.take = some 0)
    (rows : List α) : window.rows rows = [] := by
  simp [Window.rows, empty]

namespace Sql

/-! ## Reading windows -/

/-- The words between the blanks of a text. -/
def words (text : String) : List String :=
  ((text.toList.splitOn ' ').filter fun word => !word.isEmpty).map String.ofList

/-- The number of rows that a word says in digits. -/
def readCount (word : String) : Option Nat :=
  if word.toList.all Char.isDigit then some (Nat.ofDigitChars 10 word.toList 0) else none

/-- Reads `OFFSET n ROWS`, which `FETCH NEXT m ROWS ONLY` may follow. -/
def readFetch : List String → Option Window
  | ["OFFSET", skip, "ROWS"] => (readCount skip).map fun skip => { skip }
  | ["OFFSET", skip, "ROWS", "FETCH", "NEXT", take, "ROWS", "ONLY"] => do
    let skip ← readCount skip
    let take ← readCount take
    return { skip, take := some take }
  | _ => none

/-- Reads a window that has to follow an ordering: the one of the statement, or else one by nothing
in particular. -/
def readFetchOrdered (ordered : Bool) : List String → Option Window
  | [] => some {}
  | "ORDER" :: "BY" :: "(SELECT" :: "NULL)" :: words => if ordered then none else readFetch words
  | words => if ordered then readFetch words else none

/-- Reads `LIMIT m`, `OFFSET n` or both. -/
def readLimit : List String → Option Window
  | [] => some {}
  | ["LIMIT", take] => (readCount take).map fun take => { take := some take }
  | ["OFFSET", skip] => (readCount skip).map fun skip => { skip }
  | ["LIMIT", take, "OFFSET", skip] => do
    let take ← readCount take
    let skip ← readCount skip
    return { skip, take := some take }
  | _ => none

/-- The number of rows that a limit lets through; -1 lets all through. -/
def readBound (word : String) : Option (Option Nat) :=
  if word = "-1" then some none else (readCount word).map some

/-- Reads `LIMIT m`, which `OFFSET n` may follow. -/
def readBoundedLimit : List String → Option Window
  | [] => some {}
  | ["LIMIT", take] => (readBound take).map fun take => { take }
  | ["LIMIT", take, "OFFSET", skip] => do
    let take ← readBound take
    let skip ← readCount skip
    return { skip, take }
  | _ => none

variable {text : String}

theorem words_append (first second : String) :
    words (first ++ " " ++ second) = words first ++ words second := by
  have blank : (" " : String).toList = [' '] := rfl
  simp only [words, String.toList_append, blank, List.append_assoc, List.singleton_append,
    List.splitOn]
  rw [List.splitOnP_append_cons _ _ (by decide), List.filter_append, List.map_append]

theorem words_of_unbroken (given : text ≠ "") (unbroken : ' ' ∉ text.toList) :
    words text = [text] := by
  have nonempty : text.toList ≠ [] := fun empty => given (String.toList_eq_nil_iff.mp empty)
  rw [words, List.splitOn_eq_singleton unbroken, List.filter_cons_of_pos (by simpa using nonempty),
    List.filter_nil, List.map_singleton, String.ofList_toList]

theorem words_intercalate (texts : List String) :
    words (" ".intercalate texts) = texts.flatMap words := by
  induction texts with
  | nil => decide
  | cons first rest ih =>
      cases rest with
      | nil => simp
      | cons next rest =>
          rw [String.intercalate_cons_cons, words_append, ih]
          rfl

theorem isDigit_of_mem_repr {number : Nat} {c : Char} (member : c ∈ number.repr.toList) :
    c.isDigit = true := by
  rw [Nat.toList_repr] at member
  exact Nat.isDigit_of_mem_toDigits (by decide) (by decide) member

theorem words_repr (number : Nat) : words number.repr = [number.repr] :=
  words_of_unbroken (by simp) fun member => absurd (isDigit_of_mem_repr member) (by decide)

theorem readCount_repr (number : Nat) : readCount number.repr = some number := by
  have digits : number.repr.toList.all Char.isDigit = true :=
    List.all_eq_true.mpr fun c member => isDigit_of_mem_repr member
  rw [readCount, if_pos digits, Nat.toList_repr, Nat.ofDigitChars_toDigits (by decide) (by decide)]

theorem readBound_repr (number : Nat) : readBound number.repr = some (some number) := by
  have unsigned : number.repr ≠ "-1" := by
    intro same
    have sign : '-' ∈ number.repr.toList := by
      rw [same]
      decide
    exact absurd (isDigit_of_mem_repr sign) (by decide)
  rw [readBound, if_neg unsigned, readCount_repr, Option.map_some]

end Sql

namespace Dialect

variable {dialect : Dialect} {selection : Selection}

theorem words_offset (count : Nat) :
    Sql.words ("OFFSET " ++ count.repr) = ["OFFSET", count.repr] := by
  have split : ("OFFSET " : String) = "OFFSET" ++ " " := rfl
  rw [split, Sql.words_append, Sql.words_repr]
  rfl

theorem words_limit (count : Nat) : Sql.words ("LIMIT " ++ count.repr) = ["LIMIT", count.repr] := by
  have split : ("LIMIT " : String) = "LIMIT" ++ " " := rfl
  rw [split, Sql.words_append, Sql.words_repr]
  rfl

theorem words_offsetRows (count : Nat) :
    Sql.words ("OFFSET " ++ count.repr ++ " ROWS") = ["OFFSET", count.repr, "ROWS"] := by
  have split : (" ROWS" : String) = " " ++ "ROWS" := rfl
  rw [split, ← String.append_assoc, Sql.words_append, words_offset]
  rfl

theorem words_fetch (count : Nat) :
    Sql.words ("FETCH NEXT " ++ count.repr ++ " ROWS ONLY") =
      ["FETCH", "NEXT", count.repr, "ROWS", "ONLY"] := by
  have split : ("FETCH NEXT " : String) = "FETCH NEXT" ++ " " := rfl
  have last : (" ROWS ONLY" : String) = " " ++ "ROWS ONLY" := rfl
  have words : Sql.words "FETCH NEXT" = ["FETCH", "NEXT"] ∧
      Sql.words "ROWS ONLY" = ["ROWS", "ONLY"] := by
    decide
  rw [split, last, ← String.append_assoc, Sql.words_append, Sql.words_append, Sql.words_repr,
    words.1, words.2]
  rfl

/-- Reads the window clause of a dialect; `ordered` says whether an ordering stands in front. -/
def readWindow (dialect : Dialect) (ordered : Bool) (clause : String) : Option Window :=
  match dialect.backend with
  | .sqlServer => Sql.readFetchOrdered ordered (Sql.words clause)
  | .postgres _ => Sql.readLimit (Sql.words clause)
  | .sqlite => Sql.readBoundedLimit (Sql.words clause)

/-- The window of a selection is what its clause says. -/
theorem readWindow_windowClause (dialect : Dialect) (selection : Selection) :
    dialect.readWindow (!selection.orderBy.isEmpty) (dialect.windowClause selection) =
      some { skip := selection.skip.getD 0, take := selection.take } := by
  obtain ⟨backend, style⟩ := dialect
  obtain ⟨source, columns, condition, primaryKeys, skip, take, orderBy, joins⟩ := selection
  have filler : Sql.words "ORDER BY (SELECT NULL)" = ["ORDER", "BY", "(SELECT", "NULL)"] := by
    decide
  have all : Sql.words "LIMIT -1" = ["LIMIT", "-1"] ∧ Sql.readBound "-1" = some none := by decide
  rw [readWindow, windowClause, Sql.words_intercalate, windowParts]
  cases backend with
  | sqlServer =>
      cases orderBy <;> cases skip <;> cases take <;>
        simp [Selection.isWindowed, filler, words_offsetRows, words_fetch, Sql.readFetchOrdered,
          Sql.readFetch, Sql.readCount_repr]
  | postgres folding =>
      cases skip <;> cases take <;>
        simp [words_offset, words_limit, Sql.readLimit, Sql.readCount_repr]
  | sqlite =>
      cases skip <;> cases take <;>
        simp [Selection.isWindowed, words_offset, words_limit, all, Sql.readBoundedLimit,
          Sql.readBound_repr, Sql.readCount_repr]

theorem windowParts_eq_nil :
    dialect.windowParts selection = [] ↔ selection.isWindowed = false := by
  obtain ⟨backend, style⟩ := dialect
  obtain ⟨source, columns, condition, primaryKeys, skip, take, orderBy, joins⟩ := selection
  cases backend <;> cases skip <;> cases take <;> simp [windowParts, Selection.isWindowed]

/-- There is no clause for all rows, and only for them. -/
theorem windowClause_eq_empty :
    dialect.windowClause selection = "" ↔ selection.isWindowed = false := by
  obtain ⟨backend, style⟩ := dialect
  obtain ⟨source, columns, condition, primaryKeys, skip, take, orderBy, joins⟩ := selection
  cases backend <;> cases skip <;> cases take <;> cases orderBy <;>
    simp [windowClause, windowParts, Selection.isWindowed, String.intercalate_cons_cons]

/-! ## Clauses -/

/-- The clauses of a window, each with what it begins with. -/
def windowClauses (dialect : Dialect) (selection : Selection) : List (String × String) :=
  match dialect.backend with
  | .sqlServer =>
    if selection.isWindowed then
      (if selection.orderBy.isEmpty then [("ORDER BY", "(SELECT NULL)")] else []) ++
        [("OFFSET", (selection.skip.getD 0).repr ++ " ROWS")] ++
        (selection.take.toList.map fun count => ("FETCH NEXT", count.repr ++ " ROWS ONLY"))
    else []
  | .postgres _ =>
    (selection.take.toList.map fun count => ("LIMIT", count.repr)) ++
      (selection.skip.toList.map fun count => ("OFFSET", count.repr))
  | .sqlite =>
    if selection.isWindowed then
      [("LIMIT", (selection.take.map Nat.repr).getD "-1")] ++
        (selection.skip.toList.map fun count => ("OFFSET", count.repr))
    else []

/-- The terms of an ordering, if there is one. -/
def orderClauses (dialect : Dialect) (selection : Selection) : List (String × String) :=
  if selection.orderBy.isEmpty then []
  else [("ORDER BY",
    ", ".intercalate (selection.orderBy.map (dialect.sortTerm selection.qualifier)))]

/-- The clauses of a SELECT in front of its ordering. -/
def leadingClauses (dialect : Dialect) (selection : Selection) (source : String) :
    List (String × String) :=
  [("SELECT", dialect.selectList selection), ("FROM", source)] ++
    (selection.joins.map fun join => ("INNER JOIN", dialect.tableText join.table ++ " ON " ++
      dialect.tableText join.leftColumn ++ " = " ++ dialect.tableText join.rightColumn)) ++
    ((selection.condition.toList.filter (· ≠ "")).map fun text => ("WHERE", text))

/-- All clauses of a SELECT. -/
def clauses (dialect : Dialect) (selection : Selection) (source : String) :
    List (String × String) :=
  dialect.leadingClauses selection source ++ dialect.orderClauses selection ++
    dialect.windowClauses selection

/-- A clause in a text. -/
def clauseText (clause : String × String) : String := clause.1 ++ " " ++ clause.2

theorem windowParts_eq (dialect : Dialect) (selection : Selection) :
    dialect.windowParts selection = (dialect.windowClauses selection).map clauseText := by
  obtain ⟨backend, style⟩ := dialect
  obtain ⟨source, columns, condition, primaryKeys, skip, take, orderBy, joins⟩ := selection
  cases backend <;> cases skip <;> cases take <;> cases orderBy <;> rfl

/-- The text of a SELECT is that of its clauses. -/
theorem selectFrom_eq_clauses (dialect : Dialect) (selection : Selection) (source : String) :
    dialect.selectFrom selection source =
      " ".intercalate ((dialect.clauses selection source).map clauseText) := by
  have joins : selection.joins.map dialect.joinClause = (selection.joins.map fun join =>
      ("INNER JOIN", dialect.tableText join.table ++ " ON " ++
        dialect.tableText join.leftColumn ++ " = " ++
          dialect.tableText join.rightColumn)).map clauseText := by
    rw [List.map_map]
    refine List.map_congr_left fun join _ => ?_
    have split : ("INNER JOIN " : String) = "INNER JOIN" ++ " " := rfl
    simp only [joinClause, split, Function.comp_apply, clauseText, String.append_assoc]
  have condition : conditionParts selection.condition =
      ((selection.condition.toList.filter (· ≠ "")).map fun text => ("WHERE", text)).map
        clauseText := by
    cases selection.condition with
    | none => rfl
    | some text =>
        by_cases empty : text = ""
        · simp [conditionParts, empty]
        · simp [conditionParts, empty]
          rfl
  have order : dialect.orderParts selection =
      (dialect.orderClauses selection).map clauseText := by
    unfold orderParts orderClauses
    split <;> rfl
  rw [selectFrom, clauses, leadingClauses, joins, condition, order, windowParts_eq]
  simp only [List.map_append]
  rfl

/-- The window is written behind all the rest. -/
theorem selectFrom_eq_append (dialect : Dialect) (selection : Selection) (source : String) :
    dialect.selectFrom selection source =
      dialect.selectFrom { selection with skip := none, take := none } source ++
        if dialect.windowClause selection = "" then ""
        else " " ++ dialect.windowClause selection := by
  have unwindowed : dialect.windowParts { selection with skip := none, take := none } = [] :=
    windowParts_eq_nil.mpr rfl
  have parts : dialect.windowParts selection = [] ↔ dialect.windowClause selection = "" :=
    windowParts_eq_nil.trans windowClause_eq_empty.symm
  unfold selectFrom
  rw [unwindowed, List.append_nil]
  by_cases empty : dialect.windowClause selection = ""
  · rw [if_pos empty, parts.mpr empty, List.append_nil, String.append_empty]
    rfl
  · rw [if_neg empty, String.intercalate_append_of_ne_nil (by simp) (mt parts.mp empty),
      String.append_assoc]
    rfl

/-- What a windowed SELECT of SQL Server is ordered by. -/
def orderingText (dialect : Dialect) (selection : Selection) : String :=
  if selection.orderBy.isEmpty then "(SELECT NULL)"
  else ", ".intercalate (selection.orderBy.map (dialect.sortTerm selection.qualifier))

theorem leadingClauses_unordered (dialect : Dialect) (selection : Selection) (source : String) :
    ∀ clause ∈ dialect.leadingClauses selection source, clause.1 ≠ "ORDER BY" := by
  unfold leadingClauses
  simp only [List.forall_mem_append, List.forall_mem_map]
  exact ⟨⟨by simp, fun _ _ => by decide⟩, fun _ _ => by decide⟩

/-- A window of SQL Server stands behind the only ordering of its statement. -/
theorem clauses_ordered (onServer : dialect.backend = .sqlServer)
    (windowed : selection.isWindowed = true) (source : String) :
    ∃ before after,
      dialect.clauses selection source =
        before ++ [("ORDER BY", dialect.orderingText selection),
          ("OFFSET", (selection.skip.getD 0).repr ++ " ROWS")] ++ after ∧
      ∀ clause ∈ before ++ after, clause.1 ≠ "ORDER BY" := by
  have apart : ("FETCH NEXT" : String) ≠ "ORDER BY" := by decide
  refine ⟨dialect.leadingClauses selection source,
    selection.take.toList.map fun count => ("FETCH NEXT", count.repr ++ " ROWS ONLY"), ?_,
    List.forall_mem_append.mpr ⟨dialect.leadingClauses_unordered selection source,
      List.forall_mem_map.mpr fun _ _ => apart⟩⟩
  unfold clauses orderClauses windowClauses orderingText
  rw [onServer]
  simp only [if_pos windowed]
  cases selection.orderBy.isEmpty <;> simp

end Dialect

namespace QueryChain

/-- The window that the calls describe: the last counts are the ones that hold. -/
def window (chain : QueryChain) : Window where
  skip := chain.byKind.skips.getLast?.getD 0
  take := chain.byKind.takes.getLast?

end QueryChain

namespace Query

/-- A SELECT has the window of its query, written in one clause at its end if there is anything to
write. -/
structure Pages (query : Query) (selection : Selection) (source sql : String) : Prop where
  read : query.dialect.readWindow (!query.chain.byKind.orderings.isEmpty)
    (query.dialect.windowClause selection) = some query.chain.window
  absent : query.dialect.windowClause selection = "" ↔
    query.chain.byKind.skips = [] ∧ query.chain.byKind.takes = []
  empty : query.chain.byKind.takes.getLast? = some 0 →
    query.dialect.windowClause selection ≠ "" ∧
      ∀ {α : Type} (rows : List α), query.chain.window.rows rows = []
  behind : sql = query.dialect.selectFrom { selection with skip := none, take := none } source ++
    if query.dialect.windowClause selection = "" then ""
    else " " ++ query.dialect.windowClause selection
  clauses : sql =
    " ".intercalate ((query.dialect.clauses selection source).map Dialect.clauseText)
  ordered : query.dialect.backend = .sqlServer →
    (query.chain.byKind.skips ≠ [] ∨ query.chain.byKind.takes ≠ []) →
    ∃ before after,
      query.dialect.clauses selection source =
        before ++ [("ORDER BY", query.dialect.orderingText selection),
          ("OFFSET", query.chain.window.skip.repr ++ " ROWS")] ++ after ∧
      ∀ clause ∈ before ++ after, clause.1 ≠ "ORDER BY"

variable {query : Query} {options : Options} {compiled : Compiled}

/-- Every dialect writes the window that the calls of a query describe. -/
theorem compile_pages (accepted : query.compile options = .ok compiled) :
    ∃ selection parameters source,
      query.selection options = .ok (selection, parameters) ∧
      query.dialect.sourceText selection.source = .ok source ∧
      query.Pages selection source compiled.sql := by
  obtain ⟨selection, parameters, sql, ran, written, rfl⟩ := compile_eq_ok accepted
  obtain ⟨_, metadata, texts, _, _, _, describe⟩ := QueryChain.denote_of_selection ran
  obtain ⟨source, isSource, rfl⟩ := writeSelect_eq_ok written
  have windowed : selection.isWindowed = true ↔
      query.chain.byKind.skips ≠ [] ∨ query.chain.byKind.takes ≠ [] := by
    rw [Selection.isWindowed, describe.skip, describe.take, Bool.or_eq_true,
      List.getLast?_isSome, List.getLast?_isSome]
  have ordered : selection.orderBy.isEmpty = query.chain.byKind.orderings.isEmpty := by
    rw [Bool.eq_iff_iff, List.isEmpty_iff_length_eq_zero, List.isEmpty_iff_length_eq_zero,
      describe.orderBy.length_eq]
  refine ⟨selection, parameters, source, ?_, isSource, ?_⟩
  · rw [Query.selection, ran]
  · exact {
      read := by
        have read := query.dialect.readWindow_windowClause selection
        rwa [ordered, describe.skip, describe.take] at read
      absent := by
        rw [Dialect.windowClause_eq_empty, ← Bool.not_eq_true, windowed, not_or, not_not, not_not]
      empty := fun last => by
        have given : query.chain.byKind.takes ≠ [] := fun none => by simp [none] at last
        refine ⟨fun unwritten => ?_, Window.rows_eq_nil last⟩
        rw [Dialect.windowClause_eq_empty, windowed.mpr (.inr given)] at unwritten
        cases unwritten
      behind := query.dialect.selectFrom_eq_append selection source
      clauses := query.dialect.selectFrom_eq_clauses selection source
      ordered := fun onServer given => by
        have ordered := Dialect.clauses_ordered onServer (windowed.mpr given) source
        rwa [describe.skip] at ordered }

/-- A page of the log, with its size given twice. -/
def logPage (dialect : Dialect) : Query where
  dialect
  chain := {
    root := some Samples.auditEntry
    steps := [.take 3, .skip 4, .take 10] }

theorem logPage_pages :
    ∃ compiled selection source,
      (logPage ⟨.sqlServer, .atSign⟩).compile = .ok compiled ∧
      (logPage ⟨.sqlServer, .atSign⟩).Pages selection source compiled.sql ∧
      compiled.sql = "SELECT [Message], [Level] FROM [AuditEntry] " ++
        "ORDER BY (SELECT NULL) OFFSET 4 ROWS FETCH NEXT 3 ROWS ONLY" ∧
      (logPage ⟨.sqlServer, .atSign⟩).chain.window.rows (List.range 10) = [4, 5, 6] := by
  have written : ((logPage ⟨.sqlServer, .atSign⟩).compile).toOption.map (·.sql) =
      some ("SELECT [Message], [Level] FROM [AuditEntry] " ++
        "ORDER BY (SELECT NULL) OFFSET 4 ROWS FETCH NEXT 3 ROWS ONLY") := by
    decide +kernel
  obtain ⟨compiled, accepted, sql_eq⟩ := Fault.ok_of_seen written
  obtain ⟨selection, _, source, _, _, pages⟩ := compile_pages accepted
  exact ⟨compiled, selection, source, accepted, pages, sql_eq, by decide⟩

end Query

end EntitySql
