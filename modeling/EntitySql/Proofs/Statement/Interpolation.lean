import EntitySql.Proofs.Sql.Interpolation
import EntitySql.Proofs.Statement.Call

/-!
# Interpolation of statements

Literals double their percent signs in the percent style, but the names in a statement are
written alike in every style.  So a driver reads a statement exactly if all its percent signs
are those of literals.
-/

namespace EntitySql

open Sql (Mention Woven Batched Tally Interpolates)

namespace Value

/-- The text that is quoted in the literal of a value. -/
def quotedText? : Value → Option String
  | null | bool _ | int _ | float _ | decimal _ => none
  | dateTime day clock => some (Calendar.momentText 'T' day clock)
  | other => some other.plainText

/-- The number of percent signs that are quoted in the literals of values. -/
def quotedPercents (values : List Value) : Nat :=
  ((values.filterMap quotedText?).flatMap String.toList).count '%'

@[simp]
theorem quotedPercents_append (first later : List Value) :
    quotedPercents (first ++ later) = quotedPercents first + quotedPercents later := by
  simp [quotedPercents]

end Value

namespace Dialect

variable {dialect : Dialect} {value : Value} {content : String}

theorem literal_of_quoted (quoted : value.quotedText? = some content) :
    dialect.literal value = dialect.textLiteral content := by
  cases value with
  | null | bool | int | float | decimal => simp [Value.quotedText?] at quoted
  | _ =>
      rw [← Option.some.inj quoted]
      rfl

theorem literal_of_not_quoted (notQuoted : value.quotedText? = none) (style : PlaceholderStyle) :
    (dialect.inStyle style).literal value = dialect.literal value := by
  cases value with
  | null | bool | int | float | decimal => rfl
  | _ => simp [Value.quotedText?] at notQuoted

end Dialect

/-! ## Mentions -/

section Mentions

variable {dialect : Dialect} {names tables columns : List String} {text other : String}
variable {members arguments : List Value} {mention : Mention} {mentions : List Mention}

theorem silent_of_readable {name : String} (readable : (Sql.Operand.parameter name).Readable) :
    '%' ∉ name.toList ∧ ')' ∉ name.toList := by
  constructor
  all_goals
    intro member
    have word := readable.2 _ member
    revert word
    decide

variable (percent : dialect.style = .percent)

include percent

theorem tally_textLiteral (names : List String) (content : String) :
    Tally names (dialect.textLiteral content) ((dialect.inStyle .atSign).textLiteral content)
      (content.toList.count '%') := by
  -- quotes are doubled first, in either style
  have inner := Tally.ofDoubled names (Text.doubled '\'' content)
  have sameCount : (Text.doubled '\'' content).toList.count '%' = content.toList.count '%' := by
    rw [Text.doubled, String.toList_ofList, Text.count_doubleEach_of_ne (by decide)]
  have whole := ((Tally.same names "'").append inner).append (.same names "'")
  simpa [Dialect.textLiteral, percent, Dialect.inStyle, sameCount] using whole

theorem tally_literal (names : List String) (value : Value) :
    Tally names (dialect.literal value) ((dialect.inStyle .atSign).literal value)
      (Value.quotedPercents [value]) := by
  cases quoted : value.quotedText? with
  | none =>
      rw [Dialect.literal_of_not_quoted quoted .atSign]
      simpa [Value.quotedPercents, quoted] using Tally.same names (dialect.literal value)
  | some content =>
      rw [Dialect.literal_of_quoted quoted, Dialect.literal_of_quoted quoted]
      simpa [Value.quotedPercents, quoted] using tally_textLiteral percent names content

theorem tally_arguments (names : List String) (values : List Value) :
    Tally names (", ".intercalate (values.map dialect.literal))
      (", ".intercalate (values.map (dialect.inStyle .atSign).literal))
      (Value.quotedPercents values) := by
  induction values with
  | nil => exact .same names ""
  | cons value rest ih =>
      have first := tally_literal percent names value
      cases rest with
      | nil => simpa using first
      | cons next rest =>
          have whole := (first.append (.same names ", ")).append ih
          rw [Nat.add_zero, ← Value.quotedPercents_append] at whole
          simpa [String.intercalate_cons_cons] using whole

theorem tally_placeholder {name : String} (isName : name ∈ names)
    (readable : (Sql.Operand.parameter name).Readable) :
    Tally names (dialect.placeholder name) ((dialect.inStyle .atSign).placeholder name) 0 := by
  rw [Dialect.placeholder, percent]
  exact .placeholder isName (silent_of_readable readable).2

theorem tally_call {function : TableFunction}
    (named : Dialect.isFunctionName function.name = true) :
    Tally names ((Mention.call function).text dialect)
      ((Mention.call function).text (dialect.inStyle .atSign))
      (Value.quotedPercents function.arguments) := by
  have text_eq (dialect : Dialect) : (Mention.call function).text dialect =
      function.name ++ "(" ++ ", ".intercalate (function.arguments.map dialect.literal) ++ ")" := by
    simp [Mention.text, Dialect.functionCall, named, Except.toOption]
  have whole := ((Tally.same names (function.name ++ "(")).append
    (tally_arguments percent names function.arguments)).append (.same names ")")
  rw [text_eq, text_eq]
  simpa using whole

/-- Only literals and placeholders are written differently in another style. -/
theorem tally_mention
    (drawn : mention.DrawnFrom dialect tables columns members arguments names) :
    Tally names (mention.text dialect) (mention.text (dialect.inStyle .atSign))
      (Value.quotedPercents mention.arguments) := by
  cases mention with
  | parameter name => exact tally_placeholder percent drawn.1 drawn.2
  | call function => exact tally_call percent drawn.1
  | _ => exact .same names _

omit percent in
theorem tally_woven (woven : Woven dialect .atSign text other mentions)
    (tallies : ∀ mention ∈ mentions, Tally names (mention.text dialect)
      (mention.text (dialect.inStyle .atSign)) (Value.quotedPercents mention.arguments)) :
    Tally names text other
      (Value.quotedPercents (mentions.flatMap Mention.arguments)) := by
  induction woven with
  | ending words closes => exact .same names words
  | last mention => simpa using tallies mention (List.mem_singleton_self mention)
  | words words plain _ ih => simpa using (Tally.same names words).append (ih tallies)
  | mention mention separated _ ih =>
      obtain ⟨first, later⟩ := List.forall_mem_cons.mp tallies
      simpa using first.append (ih later)

omit percent in
theorem tally_batched {readsBack : Bool} {statement : String}
    (batched : Batched dialect .atSign readsBack statement text other mentions)
    (tallies : ∀ mention ∈ mentions, Tally names (mention.text dialect)
      (mention.text (dialect.inStyle .atSign)) (Value.quotedPercents mention.arguments)) :
    Tally names text other
      (Value.quotedPercents (mentions.flatMap Mention.arguments)) := by
  cases batched with
  | alone begins woven => exact tally_woven woven tallies
  | followed begins woven selects readBackWoven =>
      obtain ⟨first, later⟩ := List.forall_mem_append.mp tallies
      have whole := ((tally_woven woven first).append (.same names "; ")).append
        (tally_woven readBackWoven later)
      simpa using whole

end Mentions

namespace Work

/-- A statement in the percent style is read as the one with at signs exactly if that has no
percent signs but those in the literals of function arguments. -/
theorem plan_interpolates (dialect : Dialect) (work : Work) (plan : Plan)
    (planned : work.plan dialect = .ok plan)
    (percent : (work.writtenIn dialect).style = .percent) :
    ∃ atSigns, (work.inStyle .atSign).plan (dialect.inStyle .atSign) = .ok atSigns ∧
      atSigns.compiled.parameters = plan.compiled.parameters ∧
      (Interpolates (plan.compiled.parameters.map (·.1)) plan.compiled.sql atSigns.compiled.sql ↔
        atSigns.compiled.sql.toList.count '%' =
          Value.quotedPercents work.arguments) := by
  obtain ⟨_, again, mentions, _, ranAgain, written, areArguments⟩ := plan_written .atSign planned
  have tally := tally_batched written.batched fun mention isMention =>
    tally_mention percent (written.drawn mention isMention)
  rw [areArguments] at tally
  exact ⟨again, ranAgain, written.parameters,
    tally.interpolates_iff fun name isName => (silent_of_readable (written.readable name isName)).1⟩

/-- Notes found by a function that is given a text with percent signs. -/
def search : Work :=
  let note : EntityType :=
    { name := "Note", shape := .bare, mapping := .declared { columns := [{ name := "Age" }] } }
  .query (((Query.start ⟨.postgres .keep, .percent⟩ (some note)).readFrom (.text "find")
    [.text "5% '%(p0)s'", .int 5]).filter (.test (.text "Age") .greater (.int 18))) none {}

theorem search_sql :
    (search.plan ⟨.postgres .keep, .percent⟩).toOption.map (·.compiled.sql) = some
      "SELECT \"Age\" FROM find('5%% ''%%(p0)s''', 5) WHERE \"Age\" > %(p0)s" := by
  decide

theorem search_interpolates :
    ∃ plan atSigns, search.plan ⟨.postgres .keep, .percent⟩ = .ok plan ∧
      (search.inStyle .atSign).plan ⟨.postgres .keep, .atSign⟩ = .ok atSigns ∧
      Interpolates (plan.compiled.parameters.map (·.1)) plan.compiled.sql
        atSigns.compiled.sql := by
  obtain ⟨plan, planned, _⟩ := Fault.ok_of_seen search_sql
  obtain ⟨atSigns, ranAgain, _, interpolates⟩ :=
    plan_interpolates ⟨.postgres .keep, .percent⟩ search plan planned rfl
  refine ⟨plan, atSigns, planned, ranAgain, interpolates.mpr ?_⟩
  have counted : ((search.inStyle .atSign).plan ⟨.postgres .keep, .atSign⟩).toOption.map
      (·.compiled.sql.toList.count '%') =
        some (Value.quotedPercents search.arguments) := by
    decide
  have ranAgain : (search.inStyle .atSign).plan ⟨.postgres .keep, .atSign⟩ = .ok atSigns := ranAgain
  rw [ranAgain] at counted
  exact Option.some.inj counted

/-- Quotas of which a percentage is used. -/
def quota : EntityType where
  name := "Quota"
  shape := .closed
  fields := [⟨"used", some (.int 0)⟩]
  mapping := .declared { columns := [{ name := "used", column := some "used%" }] }

def quotaInsert : Work := .insert ⟨quota, [("used", .int 40)]⟩ {} none

/-- The percent sign in the name of the column is read as the beginning of a marker. -/
theorem quotaInsert_not_interpolated :
    ∃ plan atSigns, quotaInsert.plan ⟨.postgres .keep, .percent⟩ = .ok plan ∧
      (quotaInsert.inStyle .atSign).plan ⟨.postgres .keep, .atSign⟩ = .ok atSigns ∧
      plan.compiled.sql = "INSERT INTO \"Quota\" (\"used%\") VALUES (%(used_)s)" ∧
      atSigns.compiled.sql = "INSERT INTO \"Quota\" (\"used%\") VALUES (@used_)" ∧
      ¬ Interpolates (plan.compiled.parameters.map (·.1)) plan.compiled.sql
        atSigns.compiled.sql := by
  have seen : (quotaInsert.plan ⟨.postgres .keep, .percent⟩).toOption.map (·.compiled.sql) =
      some "INSERT INTO \"Quota\" (\"used%\") VALUES (%(used_)s)" := by
    decide
  have seenAgain : ((quotaInsert.inStyle .atSign).plan ⟨.postgres .keep, .atSign⟩).toOption.map
      (·.compiled.sql) = some "INSERT INTO \"Quota\" (\"used%\") VALUES (@used_)" := by
    decide
  obtain ⟨plan, planned, sql_eq⟩ := Fault.ok_of_seen seen
  obtain ⟨atSigns, ranAgain, again_eq⟩ := Fault.ok_of_seen seenAgain
  refine ⟨plan, atSigns, planned, ranAgain, sql_eq, again_eq, ?_⟩
  rintro ⟨pieces, scanned, _⟩
  have unread : Sql.Marker.outside.scan plan.compiled.sql.toList = none := by
    rw [sql_eq]
    decide
  rw [unread] at scanned
  cases scanned

end Work

end EntitySql
