import EntitySql.Proofs.Batch.Uncut
import EntitySql.Proofs.Statement.Call
import EntitySql.Proofs.Text.Blanks

/-!
# Statements in a batch

Whatever stands in the names and values of a statement, the statement passes through the
splitting of a batch in one piece, if the names are not quoted already.  So a mutation and
the SELECT behind it are taken apart where they were put together.
-/

namespace EntitySql

open Sql (Mention Woven Batched isWording Closes Begins)

namespace Batch

/-- A text that stays in one piece and does not end with a blank. -/
structure Firm (text : String) : Prop where
  uncut : Uncut text.toList
  ends : text.toList.getLast?.any (!Text.isBlank ·) = true

variable {text later words : String}

theorem Firm.behind (firm : Firm later) (uncut : Uncut text.toList) : Firm (text ++ later) := by
  obtain ⟨laterUncut, ends⟩ := firm
  refine ⟨?_, ?_⟩
  · rw [String.toList_append]
    exact uncut.append laterUncut
  · cases last : later.toList.getLast? with
    | none => simp [last] at ends
    | some c => simpa [List.getLast?_append, last] using ends

/-- The semicolon and the characters that open regions. -/
def cutters : List Char := [';', '\'', '"', '[']

theorem uncut_marks {marks : List Char} (harmless : marks.all (!cutters.contains ·) = true) :
    Uncut marks := by
  apply uncut_of_plain
  intro c isChar
  have other := List.all_eq_true.mp harmless c isChar
  simp only [cutters, Bool.not_eq_true', ← Bool.not_eq_true, List.contains_iff_mem, List.mem_cons,
    List.not_mem_nil, or_false, not_or] at other
  obtain ⟨notCut, notSingle, notDouble, notBracket⟩ := other
  exact ⟨notCut, by simp [closingOf, notSingle, notDouble, notBracket]⟩

/-- A class of characters without any of them is not cut. -/
theorem uncut_of_class {inClass : Char → Bool}
    (harmless : cutters.all (fun c => !inClass c) = true) {text : List Char}
    (each : ∀ c ∈ text, inClass c = true) : Uncut text := by
  refine uncut_marks (List.all_eq_true.mpr fun c isChar => ?_)
  rw [Bool.not_eq_true', ← Bool.not_eq_true, List.contains_iff_mem]
  intro isCutter
  have outside := List.all_eq_true.mp harmless c isCutter
  rw [each c isChar] at outside
  cases outside

theorem uncut_words (plain : words.toList.all isWording = true) : Uncut words.toList :=
  uncut_of_class (by decide) (List.all_eq_true.mp plain)

theorem firm_words (closes : Closes words) : Firm words := ⟨uncut_words closes.1, closes.2⟩

theorem uncut_quoted (content : List Char) :
    Uncut ('\'' :: (Text.doubleEach '\'' content ++ ['\''])) :=
  uncut_quotation (by decide) content

/-! ## Names -/

section Names

variable {dialect : Dialect} (unbatched : dialect.batches = false)
variable {name owner : String} {qualifier : Option String}

include unbatched

theorem delimiters_of_unbatched : dialect.delimiters = ⟨'"', '"'⟩ := by
  unfold Dialect.delimiters
  split
  · rename_i isServer
    rw [Dialect.batches, isServer] at unbatched
    cases unbatched
  · rfl

theorem firm_enclose (content : String) : Firm (dialect.delimiters.enclose content) := by
  rw [delimiters_of_unbatched unbatched]
  constructor
  · rw [Text.Delimiters.toList_enclose]
    exact uncut_quotation (by decide) content.toList
  · rw [Text.Delimiters.toList_enclose, ← List.cons_append, List.getLast?_concat]
    decide

theorem firm_identifier (given : name ≠ "") (unquoted : dialect.isDelimited name = false) :
    Firm (dialect.identifier name) := by
  rw [Dialect.identifier_of_not_delimited given unquoted]
  exact firm_enclose unbatched (dialect.fold name)

theorem uncut_identifier_of_unbatched (unquoted : dialect.isDelimited name = false) :
    Uncut (dialect.identifier name).toList := by
  by_cases given : name = ""
  · subst given
    exact uncut_nil
  · exact (firm_identifier unbatched given unquoted).uncut

/-- Names with dots between them are firm if there is anything to write. -/
theorem firm_dotted {names : List String} (given : names ≠ [] ∧ names ≠ [""])
    (unquoted : ∀ name ∈ names, dialect.isDelimited name = false) :
    Firm (".".intercalate (names.map dialect.identifier)) := by
  induction names with
  | nil => exact absurd rfl given.1
  | cons name others ih =>
      obtain ⟨nameUnquoted, othersUnquoted⟩ := List.forall_mem_cons.mp unquoted
      cases others with
      | nil =>
          have nameGiven : name ≠ "" := fun empty => given.2 (by rw [empty])
          simpa using firm_identifier unbatched nameGiven nameUnquoted
      | cons next others =>
          have uncut := uncut_identifier_of_unbatched unbatched nameUnquoted
          rw [List.map_cons, List.map_cons, String.intercalate_cons_cons, String.append_assoc]
          by_cases last : next :: others = [""]
          · obtain ⟨rfl, rfl⟩ := List.cons_eq_cons.mp last
            have dot : Firm "." := ⟨uncut_marks (by decide), by decide⟩
            exact dot.behind uncut
          · have dot : Uncut ".".toList := uncut_marks (by decide)
            exact ((ih ⟨List.cons_ne_nil _ _, last⟩ othersUnquoted).behind dot).behind uncut

theorem firm_table (given : name ≠ "")
    (unquoted : ∀ segment ∈ Dialect.segments name, dialect.isDelimited segment = false) :
    Firm (dialect.tableText name) := by
  refine firm_dotted unbatched ⟨by simp [Dialect.segments], fun empty => given ?_⟩ unquoted
  have pieces : name.toList.splitOn '.' = [[]] := by
    simpa [Dialect.segments, List.map_eq_singleton_iff] using empty
  have joined : ['.'].intercalate (name.toList.splitOn '.') = name.toList :=
    List.intercalate_splitOn _
  rw [pieces] at joined
  exact String.toList_eq_nil_iff.mp joined.symm

theorem firm_joined (ownerUnquoted : dialect.Unquoted owner) (unquoted : dialect.Unquoted name) :
    Firm (dialect.tableText (owner ++ "." ++ name)) := by
  refine firm_table unbatched (by simp) ?_
  rw [Dialect.segments_append, List.forall_mem_append]
  exact ⟨ownerUnquoted.2, unquoted.2⟩

theorem firm_column (given : name ≠ "")
    (ownerUnquoted : ∀ owner ∈ qualifier, dialect.Unquoted owner)
    (unquoted : dialect.Unquoted name) : Firm (dialect.columnText qualifier name) := by
  cases qualifier with
  | none => exact firm_identifier unbatched given unquoted.1
  | some owner =>
      simp only [Dialect.columnText]
      split
      · exact firm_identifier unbatched given unquoted.1
      · exact firm_joined unbatched (ownerUnquoted owner rfl) unquoted

theorem firm_entry (given : name ≠ "") (ownerUnquoted : ∀ owner ∈ qualifier, dialect.Unquoted owner)
    (unquoted : dialect.Unquoted name) : Firm (dialect.selectEntry qualifier name) := by
  have column := firm_column unbatched given ownerUnquoted unquoted
  rcases dialect.selectEntry_eq qualifier name with plain | aliased
  · rwa [plain]
  · rw [aliased, String.append_assoc]
    exact ((firm_enclose unbatched name).behind (uncut_words (by decide))).behind column.uncut

end Names

/-! ## Values -/

section Values

variable {dialect : Dialect} {value : Value} {name : String}

/-- A class of characters without blanks. -/
theorem firm_of_class {inClass : Char → Bool} {text : String} (given : text ≠ "")
    (harmless : cutters.all (fun c => !inClass c) = true)
    (solid : ∀ c, inClass c = true → Text.isBlank c = false)
    (each : ∀ c ∈ text.toList, inClass c = true) : Firm text := by
  refine ⟨uncut_of_class harmless each, ?_⟩
  have someChar : text.toList ≠ [] := by simpa using given
  rw [List.getLast?_eq_some_getLast someChar]
  simpa using solid _ (each _ (List.getLast_mem someChar))

theorem isBlank_of_isNumeric (c : Char) (numeric : Value.isNumeric c = true) :
    Text.isBlank c = false := by
  have marks : c.isAlphanum = true ∨ c = '.' ∨ c = '+' ∨ c = '-' := by
    simpa [Value.isNumeric] using numeric
  rcases marks with letter | rfl | rfl | rfl
  · have bounds := Text.bounds_of_isAlphanum letter
    simp [Text.isBlank, bounds.2]
    omega
  all_goals decide

/-- What is left out is written like the value that it is. -/
theorem firm_notGiven (given : value.plainText ≠ "") (notGiven : value.isGiven = false)
    (legible : value.isLegible = true) : Firm value.plainText := by
  have numeric {content : String} (given : content ≠ "")
      (legible : content.toList.all Value.isNumeric = true) : Firm content :=
    firm_of_class given (by decide) isBlank_of_isNumeric (List.all_eq_true.mp legible)
  cases value with
  | null => exact firm_words (by decide)
  | bool truth =>
      cases truth with
      | true => cases notGiven
      | false => exact firm_words (by decide)
  | int number => exact firm_words (Sql.closes_toString_int number)
  | float content => exact numeric given legible
  | decimal content => exact numeric given legible
  | text content =>
      obtain rfl : content = "" := by simpa [Value.isGiven] using notGiven
      exact absurd rfl given
  | bytes content =>
      obtain rfl : content = [] := by simpa [Value.isGiven] using notGiven
      have quoted : Firm "''" := ⟨uncut_quoted [], by decide⟩
      have plain : Uncut "b".toList := uncut_words (by decide)
      exact quoted.behind plain
  | list items =>
      obtain rfl : items = [] := by simpa [Value.isGiven] using notGiven
      have uncut : Uncut "[]".toList := uncut_brackets (by simp : ']' ∉ [])
      exact ⟨uncut, by decide⟩
  | tuple items =>
      obtain rfl : items = [] := by simpa [Value.isGiven] using notGiven
      exact firm_words (by decide)
  | dict entries =>
      obtain rfl : entries = [] := by simpa [Value.isGiven] using notGiven
      have braces : Firm "\x7b\x7d" := ⟨uncut_marks (by decide), by decide⟩
      exact braces
  | _ => cases notGiven

theorem firm_unnamed (unbatched : dialect.batches = false) (given : value.plainText ≠ "")
    (notText : ∀ text, value ≠ .text text) (legible : value.isLegible = true)
    (rendered : (dialect.identifierOf value).isOk = true) :
    Firm ((Mention.unnamed value).text dialect) := by
  have rendering : dialect.identifierOf value = dialect.identifierOfOther value := by
    unfold Dialect.identifierOf
    split
    · exact absurd rfl (notText _)
    · rfl
  rw [rendering] at rendered
  cases other : dialect.identifierOfOther value with
  | error fault =>
      rw [other] at rendered
      cases rendered
  | ok identifier =>
      have text_eq : (Mention.unnamed value).text dialect = identifier.plainText := by
        simp [Mention.text, rendering, other, Except.map, Except.toOption]
      rw [text_eq]
      cases isGiven : value.isGiven with
      | false =>
          simp only [Dialect.identifierOfOther, isGiven, Bool.not_false, if_true,
            Except.ok.injEq] at other
          subst other
          exact firm_notGiven given isGiven legible
      | true =>
          obtain ⟨content, enclosed⟩ :=
            Scope.enclosed_of_plainText isGiven (congrArg (Except.map Value.plainText) other)
          rw [enclosed]
          exact firm_enclose unbatched content

theorem uncut_literal (legible : value.isLegible = true) :
    Uncut (dialect.literal value).toList := by
  have text (content : String) : Uncut (dialect.textLiteral content).toList := by
    obtain ⟨inner, text_eq⟩ := dialect.toList_textLiteral content
    rw [text_eq]
    exact uncut_quoted inner
  cases value with
  | null =>
      have plain : "NULL".toList.all isWording = true := by decide
      exact uncut_words plain
  | bool truth =>
      have plain : (dialect.truthLiteral truth).toList.all isWording = true := by
        unfold Dialect.truthLiteral
        split <;> decide
      exact uncut_words plain
  | int number => exact uncut_words (Sql.closes_toString_int number).1
  | float content => exact uncut_of_class (by decide) (List.all_eq_true.mp legible)
  | decimal content => exact uncut_of_class (by decide) (List.all_eq_true.mp legible)
  | _ => exact text _

theorem uncut_arguments {arguments : List Value}
    (legible : ∀ argument ∈ arguments, argument.isLegible = true) :
    Uncut (", ".intercalate (arguments.map dialect.literal)).toList := by
  induction arguments with
  | nil => exact uncut_nil
  | cons argument others ih =>
      obtain ⟨first, later⟩ := List.forall_mem_cons.mp legible
      cases others with
      | nil => simpa using uncut_literal first
      | cons next others =>
          rw [List.map_cons, List.map_cons, String.intercalate_cons_cons, String.toList_append,
            String.toList_append]
          exact ((uncut_literal first).append (uncut_words (by decide))).append (ih later)

theorem firm_call {function : TableFunction}
    (named : Dialect.isFunctionName function.name = true)
    (legible : ∀ argument ∈ function.arguments, argument.isLegible = true) :
    Firm ((Mention.call function).text dialect) := by
  have text_eq : (Mention.call function).text dialect =
      function.name ++ "(" ++ ", ".intercalate (function.arguments.map dialect.literal) ++ ")" := by
    simp [Mention.text, Dialect.functionCall, named, Except.toOption]
  have callee : Uncut function.name.toList :=
    uncut_of_class (by decide) (Dialect.inFunctionName_of_isFunctionName named)
  have closing : Firm ")" := firm_words (by decide)
  rw [text_eq, String.append_assoc, String.append_assoc]
  exact ((closing.behind (uncut_arguments legible)).behind (uncut_words (by decide))).behind callee

theorem firm_identity (owner name : String) : Firm (dialect.identityExpression owner name) := by
  unfold Dialect.identityExpression
  split
  · exact firm_words (by decide)
  · exact firm_words (by decide)
  · have quoted (content : String) : Uncut ("'" ++ Text.doubled '\'' content ++ "'").toList := by
      simpa [Text.doubled] using uncut_quoted content.toList
    have text_eq (owner name : String) :
        "currval(pg_get_serial_sequence('" ++ owner ++ "', '" ++ name ++ "'))" =
          "currval(pg_get_serial_sequence(" ++
            (("'" ++ owner ++ "'") ++ (", " ++ (("'" ++ name ++ "'") ++ "))"))) := by
      apply String.toList_inj.mp
      simp
    have closing : Firm "))" := firm_words (by decide)
    rw [text_eq]
    exact (((closing.behind (quoted _)).behind (uncut_words (by decide))).behind (quoted _)).behind
      (uncut_words (by decide))

theorem firm_placeholder (readable : (Sql.Operand.parameter name).Readable) :
    Firm (dialect.placeholder name) := by
  obtain ⟨given, words⟩ := readable
  have named : Firm name :=
    firm_of_class given (by decide) (fun c => Text.isBlank_of_isWord) words
  unfold Dialect.placeholder PlaceholderStyle.render
  split
  · exact named.behind (uncut_marks (by decide))
  · have closing : Firm ")s" := firm_words (by decide)
    rw [String.append_assoc]
    exact (closing.behind named.uncut).behind (uncut_marks (by decide))
  · exact named.behind (uncut_marks (by decide))

end Values

/-! ## Whole statements -/

section Statements

variable {dialect : Dialect} {style : PlaceholderStyle} {other : String} {mention : Mention}
variable {mentions : List Mention} {names parameters : List String} {members arguments : List Value}

theorem firm_mention (unbatched : dialect.batches = false)
    (drawn : mention.DrawnFrom dialect names names members arguments parameters)
    (unquoted : ∀ name ∈ names, name ≠ "" ∧ dialect.Unquoted name)
    (legible : ∀ value ∈ members ++ arguments, value.isLegible = true) :
    Firm (mention.text dialect) := by
  have owned {owner : Option String} (named : ∀ table ∈ owner, table ∈ names) :
      ∀ table ∈ owner, dialect.Unquoted table :=
    fun table isOwner => (unquoted table (named table isOwner)).2
  obtain ⟨membersLegible, argumentsLegible⟩ := List.forall_mem_append.mp legible
  cases mention with
  | table name => exact firm_table unbatched (unquoted name drawn).1 (unquoted name drawn).2.2
  | column owner name =>
      obtain ⟨given, nameUnquoted⟩ := unquoted name drawn.2
      exact firm_column unbatched given (owned drawn.1) nameUnquoted
  | entry owner name =>
      obtain ⟨given, nameUnquoted⟩ := unquoted name drawn.2
      exact firm_entry unbatched given (owned drawn.1) nameUnquoted
  | joined owner name =>
      exact firm_joined unbatched (unquoted owner drawn.1).2 (unquoted name drawn.2).2
  | unnamed name =>
      obtain ⟨isMember, isColumn, notText, rendered⟩ := drawn
      exact firm_unnamed unbatched (unquoted _ isColumn).1 notText (membersLegible name isMember)
        rendered
  | parameter name => exact firm_placeholder drawn.2
  | call function =>
      exact firm_call drawn.1 fun argument isArgument =>
        argumentsLegible argument (drawn.2 argument isArgument)
  | identity owner name => exact firm_identity owner name

theorem firm_woven (woven : Woven dialect style text other mentions)
    (firm : ∀ mention ∈ mentions, Firm (mention.text dialect)) : Firm text := by
  induction woven with
  | ending words closes => exact firm_words closes
  | last mention => exact firm mention (List.mem_singleton_self mention)
  | words words plain _ ih => exact (ih firm).behind (uncut_words plain)
  | mention mention separated _ ih =>
      obtain ⟨first, later⟩ := List.forall_mem_cons.mp firm
      exact (ih later).behind first.uncut

theorem trimBlanks_firm (firm : Firm text) (begins : Begins text) :
    Text.trimBlanks text.toList = text.toList := by
  apply Text.trimBlanks_of_ends
  · intro c isFirst
    have solid := begins
    rw [Begins, Option.mem_def.mp isFirst] at solid
    simpa using solid
  · intro c isLast
    have solid := firm.ends
    rw [Option.mem_def.mp isLast] at solid
    simpa using solid

theorem ne_empty_of_begins (begins : Begins text) : text ≠ "" := by
  rintro rfl
  cases begins

theorem split_firm (firm : Firm text) (begins : Begins text) : split text = [text] := by
  have given := ne_empty_of_begins begins
  simp [split, firm.uncut.pieces_eq, trimBlanks_firm firm begins, given]

/-- Two statements are taken apart at the semicolon between them. -/
theorem split_followed (firm : Firm text) (begins : Begins text) (laterFirm : Firm later)
    (laterBegins : Begins later) : split (text ++ "; " ++ later) = [text, later] := by
  have blank : Uncut [' '] := uncut_marks (by decide)
  have parts : (text ++ "; " ++ later).toList = text.toList ++ ';' :: ([' '] ++ later.toList) := by
    simp
  have trimmed : Text.trimBlanks ([' '] ++ later.toList) = later.toList :=
    (Text.trimBlanks_blank (by decide) _).trans (trimBlanks_firm laterFirm laterBegins)
  rw [split, parts, firm.uncut.pieces_behind, (blank.append laterFirm.uncut).pieces_eq, List.map_cons,
    List.map_singleton, trimmed, trimBlanks_firm firm begins]
  simp [ne_empty_of_begins begins, ne_empty_of_begins laterBegins]

/-- A statement alone, or with the SELECT behind it. -/
theorem split_batched {readsBack : Bool} {statement : String}
    (batched : Batched dialect style readsBack statement text other mentions)
    (firm : ∀ mention ∈ mentions, Firm (mention.text dialect)) :
    (readsBack = false → split text = [text]) ∧
      (readsBack = true → ∃ table condition,
        text = statement ++ "; " ++ dialect.selectWhole table condition ∧
          split text = [statement, dialect.selectWhole table condition]) := by
  cases batched with
  | alone begins woven => exact ⟨fun _ => split_firm (firm_woven woven firm) begins, by simp⟩
  | followed begins woven selects readBackWoven =>
      obtain ⟨statementFirm, readBackFirm⟩ := List.forall_mem_append.mp firm
      obtain ⟨table, condition, rfl⟩ := selects
      exact ⟨by simp, fun _ => ⟨table, condition, rfl,
        split_followed (firm_woven woven statementFirm) begins
          (firm_woven readBackWoven readBackFirm) (Dialect.begins_selectFrom _ _)⟩⟩

end Statements

end Batch

namespace Work

/-- What a call compiles to is split into its statements, textually unchanged: a mutation and
the SELECT that reads its row back, or else the whole text.  That the texts of numbers are
those of numbers is what values promise. -/
theorem plan_split (dialect : Dialect) (work : Work) (plan : Plan)
    (planned : work.plan dialect = .ok plan) (unbatched : (work.writtenIn dialect).batches = false)
    (unquoted : ∀ name ∈ work.names, name ≠ "" ∧ (work.writtenIn dialect).Unquoted name)
    (legible : ∀ value ∈ work.members ++ work.arguments, value.isLegible = true) :
    (work.readsBack = false → Batch.split plan.compiled.sql = [plan.compiled.sql]) ∧
      (work.readsBack = true → ∃ mutation table condition,
        work.withoutReadBack.plan dialect = .ok mutation ∧
        let readBack := (work.writtenIn dialect).selectWhole table condition
        plan.compiled.sql = mutation.compiled.sql ++ "; " ++ readBack ∧
          Batch.split plan.compiled.sql = [mutation.compiled.sql, readBack]) := by
  obtain ⟨mutation, again, mentions, withoutReadBack, _, written, _⟩ :=
    plan_written (work.writtenIn dialect).style planned
  have firm : ∀ mention ∈ mentions, Batch.Firm (mention.text (work.writtenIn dialect)) :=
    fun mention isMention =>
      Batch.firm_mention unbatched (written.drawn mention isMention) unquoted legible
  obtain ⟨alone, followed⟩ := Batch.split_batched written.batched firm
  refine ⟨alone, fun readsBack => ?_⟩
  obtain ⟨table, condition, sql_eq, pieces⟩ := followed readsBack
  exact ⟨mutation, table, condition, withoutReadBack, sql_eq, pieces⟩

/-- A table and columns whose names have semicolons, quotes and brackets. -/
def drawer : EntityType where
  name := "Drawer"
  shape := .bare
  mapping := .declared {
    table := some "it's; [a].\"Drawer"
    columns := [{ name := "Id", column := some "Key;No", key := true, generated := .identity },
      { name := "label", column := some "Said \"a;" }, { name := "note", column := some "]'[" }] }

def labelled : Work :=
  .insert ⟨drawer, [("label", .text "; '"), ("note", .null)]⟩ { selectAfterMutation := true } none

theorem labelled_sql :
    (labelled.plan ⟨.postgres .lower, .percent⟩).toOption.map (·.compiled.sql) = some
      ("INSERT INTO \"it's; [a]\".\"\"\"drawer\" (\"said \"\"a;\", \"]'[\") " ++
        "VALUES (%(Said__a_)s, %(___)s); SELECT * FROM \"it's; [a]\".\"\"\"drawer\" WHERE " ++
        "\"key;no\" = currval(pg_get_serial_sequence(" ++
        "'\"it''s; [a]\".\"\"\"drawer\"', 'key;no'))") := by
  decide +kernel

theorem labelled_split :
    ∃ plan mutation readBack, labelled.plan ⟨.postgres .lower, .percent⟩ = .ok plan ∧
      labelled.withoutReadBack.plan ⟨.postgres .lower, .percent⟩ = .ok mutation ∧
      plan.compiled.sql = mutation.compiled.sql ++ "; " ++ readBack ∧
      Batch.split plan.compiled.sql = [mutation.compiled.sql, readBack] := by
  have unquoted : ∀ name ∈ labelled.names,
      name ≠ "" ∧ Dialect.Unquoted ⟨.postgres .lower, .percent⟩ name := by
    decide
  have legible : ∀ value ∈ labelled.members ++ labelled.arguments, value.isLegible = true := by
    decide
  have readsBack : labelled.readsBack = true := by decide
  obtain ⟨plan, planned, _⟩ := Fault.ok_of_seen labelled_sql
  obtain ⟨_, followed⟩ := plan_split _ labelled plan planned rfl unquoted legible
  obtain ⟨mutation, table, condition, withoutReadBack, sql_eq, pieces⟩ := followed readsBack
  exact ⟨plan, mutation, _, planned, withoutReadBack, sql_eq, pieces⟩

end Work

end EntitySql
