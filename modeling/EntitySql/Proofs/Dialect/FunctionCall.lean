import EntitySql.Proofs.Sql.Path
import EntitySql.Proofs.Statement.Interpolation

/-!
# Reading a function call back

The arguments of a function that is read from are the only values in the text of a statement.
Whatever characters they have, the text of a call is read back as its name and its arguments: a
quoted argument ends at the first lone quote, so none of its characters counts as the end of it,
as a comma or as the end of the call.
-/

namespace EntitySql

namespace Text

/-- Takes one of each two adjacent markers, from left to right. -/
def undoubleEach (marker : Char) : List Char → List Char
  | [] => []
  | [c] => [c]
  | c :: d :: rest =>
    if c = marker ∧ d = marker then marker :: undoubleEach marker rest
    else c :: undoubleEach marker (d :: rest)

variable {marker c : Char} {text : List Char}

theorem undoubleEach_twice (marker : Char) (text : List Char) :
    undoubleEach marker (marker :: marker :: text) = marker :: undoubleEach marker text :=
  if_pos ⟨rfl, rfl⟩

theorem undoubleEach_other (other : c ≠ marker) (text : List Char) :
    undoubleEach marker (c :: text) = c :: undoubleEach marker text := by
  cases text with
  | nil => rfl
  | cons d rest => exact if_neg fun both => other both.1

/-- What has been doubled is taken once, whatever follows. -/
theorem undoubleEach_doubleEach (marker : Char) (text rest : List Char) :
    undoubleEach marker (doubleEach marker text ++ rest) = text ++ undoubleEach marker rest := by
  induction text with
  | nil => rfl
  | cons c text ih =>
      by_cases same : c = marker
      · simp [same, undoubleEach_twice, ih]
      · simp [doubleEach_cons_other same, undoubleEach_other same, ih]

theorem undoubleEach_of_not_mem (outside : marker ∉ text) (rest : List Char) :
    undoubleEach marker (text ++ rest) = text ++ undoubleEach marker rest := by
  simpa [doubleEach_of_not_mem outside] using undoubleEach_doubleEach marker text rest

end Text

namespace Sql

/-- An argument in the text of a call. -/
inductive Argument where
  | word (text : String)
  | quoted (content : String)
  deriving DecidableEq, Repr

open Value (isNumeric)

/-- Reads one argument, and says what is left over. -/
def readArgument : List Char → Option (Argument × List Char)
  | [] => none
  | c :: rest =>
    if c = '\'' then
      (Text.unquoteAfter '\'' rest).map fun read => (.quoted (.ofList read.1), read.2)
    else if isNumeric c then
      some (.word (.ofList (c :: rest.takeWhile isNumeric)), rest.dropWhile isNumeric)
    else none

variable {text rest : List Char} {argument : Argument}

theorem length_of_readArgument (read : readArgument text = some (argument, rest)) :
    rest.length < text.length := by
  cases text with
  | nil => cases read
  | cons c text =>
      rw [readArgument] at read
      split at read
      · obtain ⟨⟨content, later⟩, unquoted, same⟩ := Option.map_eq_some_iff.mp read
        cases same
        exact Nat.lt_succ_of_lt (Text.length_of_unquoteAfter unquoted)
      · split at read
        · cases read
          exact Nat.lt_succ_of_le (List.dropWhile_sublist _).length_le
        · cases read

/-- Reads arguments with commas between them up to the closing parenthesis, and says what is left
over. -/
def readArguments (text : List Char) : Option (List Argument × List Char) :=
  match _read : readArgument text with
  | some (argument, ')' :: rest) => some ([argument], rest)
  | some (argument, ',' :: ' ' :: rest) =>
    (readArguments rest).map fun read => (argument :: read.1, read.2)
  | _ => none
termination_by text.length
decreasing_by
  have shorter := length_of_readArgument ‹_›
  simp only [List.length_cons] at shorter
  omega

/-- Reads a call from end to end: a name, and arguments in parentheses behind it. -/
def readCall (text : String) : Option (String × List Argument) :=
  let name := String.ofList (text.toList.takeWhile (· ≠ '('))
  match text.toList.dropWhile (· ≠ '(') with
  | '(' :: rest =>
    if rest = [')'] then some (name, [])
    else
      match readArguments rest with
      | some (arguments, []) => some (name, arguments)
      | _ => none
  | _ => none

/-- A reading ends before a comma or a closing parenthesis. -/
def EndsArgument (rest : List Char) : Prop := ∀ c ∈ rest.head?, c = ',' ∨ c = ')'

theorem readArgument_quoted (content : List Char) (ends : EndsArgument rest) :
    readArgument ('\'' :: (Text.doubleEach '\'' content ++ '\'' :: rest)) =
      some (.quoted (.ofList content), rest) := by
  have lone : rest.head? ≠ some '\'' := by
    intro head
    rcases ends _ head with comma | parenthesis
    · cases comma
    · cases parenthesis
  rw [readArgument, if_pos rfl, Text.unquoteAfter_doubleEach '\'' content rest lone]
  rfl

theorem readArgument_word {word : String} (numeric : word.toList.all isNumeric = true)
    (given : word ≠ "") (ends : EndsArgument rest) :
    readArgument (word.toList ++ rest) = some (.word word, rest) := by
  obtain ⟨c, later, characters⟩ :=
    List.exists_cons_of_ne_nil (String.toList_eq_nil_iff.not.mpr given)
  have notNumeric : rest.takeWhile isNumeric = [] ∧ rest.dropWhile isNumeric = rest := by
    cases rest with
    | nil => exact ⟨rfl, rfl⟩
    | cons next rest =>
        have stops : isNumeric next = false := by
          rcases ends next rfl with rfl | rfl <;> decide
        simp [stops]
  rw [characters, List.all_cons, Bool.and_eq_true] at numeric
  obtain ⟨starts, continues⟩ := numeric
  have unquoted : c ≠ '\'' := by
    rintro rfl
    revert starts
    decide
  have all := List.all_eq_true.mp continues
  rw [characters, List.cons_append, readArgument, if_neg unquoted, if_pos starts,
    List.takeWhile_append_of_pos all, List.dropWhile_append_of_pos all, notNumeric.1, notNumeric.2,
    List.append_nil, ← characters, String.ofList_toList]

theorem readArguments_last (read : readArgument text = some (argument, ')' :: rest)) :
    readArguments text = some ([argument], rest) := by
  rw [readArguments]
  split <;> simp_all

theorem readArguments_next (read : readArgument text = some (argument, ',' :: ' ' :: rest)) :
    readArguments text =
      (readArguments rest).map fun read => (argument :: read.1, read.2) := by
  rw [readArguments]
  split <;> simp_all

end Sql

namespace Value

/-- Numbers that are carried as texts are written as these texts say. -/
def isNumberText : Value → Bool
  | float _ => true
  | decimal _ => true
  | _ => false

end Value

namespace Dialect

open Sql (Argument readArgument readArguments readCall EndsArgument)

variable {dialect : Dialect} {value : Value} {content name : String} {rest : List Char}
variable {arguments : List Value} {function : TableFunction}

/-- The argument that a value is written as: its text in quotes, or a word. -/
def argumentOf (dialect : Dialect) (value : Value) : Argument :=
  match value.quotedText? with
  | some content => .quoted content
  | none => .word (dialect.literal value)

theorem argumentOf_inStyle (dialect : Dialect) (style : PlaceholderStyle) (value : Value) :
    (dialect.inStyle style).argumentOf value = dialect.argumentOf value := by
  unfold argumentOf
  split
  · rfl
  · rename_i notQuoted
    rw [literal_of_not_quoted notQuoted]

/-- A text as the database gets it: a driver with the percent style takes doubled percent signs
once. -/
def delivered (dialect : Dialect) (text : String) : String :=
  if dialect.style = .percent then .ofList (Text.undoubleEach '%' text.toList) else text

theorem literal_word (dialect : Dialect) (exact : value.isNumberText = false)
    (notQuoted : value.quotedText? = none) :
    dialect.literal value ≠ "" ∧ (dialect.literal value).toList.all Value.isNumeric = true := by
  cases value with
  | null =>
      have word : "NULL" ≠ "" ∧ "NULL".toList.all Value.isNumeric = true := by decide
      exact word
  | bool truth =>
      change dialect.truthLiteral truth ≠ "" ∧
        (dialect.truthLiteral truth).toList.all Value.isNumeric = true
      unfold truthLiteral
      split <;> decide
  | int number =>
      refine ⟨fun empty => ?_, Value.isNumeric_toString_int number⟩
      have closes := Sql.closes_toString_int number
      rw [show toString number = "" from empty] at closes
      exact absurd closes (by decide)
  | float => cases exact
  | decimal => cases exact
  | _ => cases notQuoted

/-- Without doubled percent signs, a literal is read as its argument. -/
theorem readArgument_literal (exact : value.isNumberText = false)
    (unsigned : dialect.style ≠ .percent) (ends : EndsArgument rest) :
    readArgument ((dialect.literal value).toList ++ rest) =
      some (dialect.argumentOf value, rest) := by
  cases quoted : value.quotedText? with
  | none =>
      obtain ⟨given, numeric⟩ := literal_word dialect exact quoted
      rw [Sql.readArgument_word numeric given ends, argumentOf, quoted]
  | some content =>
      have characters : (dialect.literal value).toList ++ rest =
          '\'' :: (Text.doubleEach '\'' content.toList ++ '\'' :: rest) := by
        rw [literal_of_quoted quoted, textLiteral, if_neg unsigned]
        simp [Text.doubled]
      rw [characters, Sql.readArgument_quoted _ ends, argumentOf, quoted, String.ofList_toList]

theorem readArguments_literals (unsigned : dialect.style ≠ .percent) (first : Value)
    (later : List Value) (exact : ∀ value ∈ first :: later, value.isNumberText = false)
    (rest : List Char) :
    readArguments
        ((", ".intercalate ((first :: later).map dialect.literal)).toList ++ ')' :: rest) =
      some ((first :: later).map dialect.argumentOf, rest) := by
  induction later generalizing first with
  | nil =>
      have read := readArgument_literal (exact first (by simp)) unsigned
        (by simp [EndsArgument] : EndsArgument (')' :: rest))
      simpa using Sql.readArguments_last read
  | cons next others ih =>
      have read := readArgument_literal (exact first (by simp)) unsigned
        (by simp [EndsArgument] : EndsArgument (',' :: ' ' ::
          ((", ".intercalate ((next :: others).map dialect.literal)).toList ++ ')' :: rest)))
      have text_eq : (", ".intercalate ((first :: next :: others).map dialect.literal)).toList ++
          ')' :: rest = (dialect.literal first).toList ++ ',' :: ' ' ::
            ((", ".intercalate ((next :: others).map dialect.literal)).toList ++ ')' :: rest) := by
        simp [String.intercalate_cons_cons]
      rw [text_eq, Sql.readArguments_next read,
        ih next fun value member => exact value (List.mem_cons_of_mem _ member)]
      rfl

theorem readCall_functionCall (unsigned : dialect.style ≠ .percent)
    (named : isFunctionName name = true) (exact : ∀ value ∈ arguments, value.isNumberText = false) :
    readCall (name ++ "(" ++ ", ".intercalate (arguments.map dialect.literal) ++ ")") =
      some (name, arguments.map dialect.argumentOf) := by
  have unopened : ∀ c ∈ name.toList, decide (c ≠ '(') = true := by
    rintro c member
    have letter := inFunctionName_of_isFunctionName named c member
    rw [decide_eq_true_eq]
    rintro rfl
    revert letter
    decide
  have characters :
      (name ++ "(" ++ ", ".intercalate (arguments.map dialect.literal) ++ ")").toList =
        name.toList ++
          '(' :: ((", ".intercalate (arguments.map dialect.literal)).toList ++ [')']) := by
    simp
  rw [readCall, characters, List.takeWhile_append_of_pos unopened,
    List.dropWhile_append_of_pos unopened]
  simp only [ne_eq, not_true_eq_false, decide_false, Bool.false_eq_true, not_false_eq_true,
    List.takeWhile_cons_of_neg, List.dropWhile_cons_of_neg, List.append_nil, String.ofList_toList]
  cases arguments with
  | nil => rfl
  | cons first later =>
      have read := readArguments_literals unsigned first later exact []
      simp only [read]
      rw [if_neg]
      -- nothing is read before a closing parenthesis
      intro closes
      rw [closes, readArguments] at read
      cases read

theorem undoubleEach_literal (percent : dialect.style = .percent)
    (exact : value.isNumberText = false) (rest : List Char) :
    Text.undoubleEach '%' ((dialect.literal value).toList ++ rest) =
      ((dialect.inStyle .atSign).literal value).toList ++ Text.undoubleEach '%' rest := by
  cases quoted : value.quotedText? with
  | none =>
      obtain ⟨_, numeric⟩ := literal_word dialect exact quoted
      rw [literal_of_not_quoted quoted]
      refine Text.undoubleEach_of_not_mem (fun member => ?_) rest
      have numeric := List.all_eq_true.mp numeric _ member
      revert numeric
      decide
  | some content =>
      have characters : (dialect.literal value).toList ++ rest =
          '\'' :: (Text.doubleEach '%' (Text.doubleEach '\'' content.toList) ++ '\'' :: rest) := by
        rw [literal_of_quoted quoted, textLiteral, if_pos percent]
        simp [Text.doubled]
      rw [characters, literal_of_quoted quoted, textLiteral, if_neg (by simp [inStyle])]
      simp [Text.undoubleEach_other, Text.undoubleEach_doubleEach, Text.doubled]

theorem undoubleEach_literals (percent : dialect.style = .percent) (values : List Value)
    (exact : ∀ value ∈ values, value.isNumberText = false) (rest : List Char) :
    Text.undoubleEach '%' ((", ".intercalate (values.map dialect.literal)).toList ++ rest) =
      (", ".intercalate (values.map (dialect.inStyle .atSign).literal)).toList ++
        Text.undoubleEach '%' rest := by
  induction values with
  | nil => rfl
  | cons first others ih =>
      have undoubled := undoubleEach_literal percent (exact first (by simp))
      cases others with
      | nil => simpa using undoubled rest
      | cons next others =>
          have later := ih fun value member => exact value (List.mem_cons_of_mem _ member)
          have comma (text : List Char) : Text.undoubleEach '%' (", ".toList ++ text) =
              ", ".toList ++ Text.undoubleEach '%' text :=
            Text.undoubleEach_of_not_mem (by decide) text
          have text_eq (dialect : Dialect) :
              (", ".intercalate ((first :: next :: others).map dialect.literal)).toList =
                (dialect.literal first).toList ++ (", ".toList ++
                  (", ".intercalate ((next :: others).map dialect.literal)).toList) := by
            simp [String.intercalate_cons_cons]
          rw [text_eq, text_eq, List.append_assoc, List.append_assoc, undoubled, comma, later,
            List.append_assoc, List.append_assoc]

/-- In the percent style the database gets the text that the call has in the style of at signs. -/
theorem delivered_functionCall (percent : dialect.style = .percent)
    (named : isFunctionName name = true) (exact : ∀ value ∈ arguments, value.isNumberText = false) :
    dialect.delivered
        (name ++ "(" ++ ", ".intercalate (arguments.map dialect.literal) ++ ")") =
      name ++ "(" ++ ", ".intercalate (arguments.map (dialect.inStyle .atSign).literal) ++ ")" := by
  have unsigned : '%' ∉ (name ++ "(").toList := by
    intro member
    rw [String.toList_append, List.mem_append] at member
    rcases member with member | parenthesis
    · have letter := inFunctionName_of_isFunctionName named _ member
      revert letter
      decide
    · revert parenthesis
      decide
  apply String.toList_inj.mp
  rw [delivered, if_pos percent, String.toList_ofList, String.toList_append, String.toList_append,
    List.append_assoc, Text.undoubleEach_of_not_mem unsigned,
    undoubleEach_literals percent arguments exact, String.toList_append, String.toList_append]
  simp [Text.undoubleEach]

/-- Whatever characters the arguments of an accepted function have, the text of its call, as the
database gets it, is read from end to end as the name and exactly these arguments: values in
quotes with their own texts, and null, truth values and integers as words. -/
theorem functionCall_reads (dialect : Dialect) (function : TableFunction)
    (named : isFunctionName function.name = true)
    (exact : ∀ value ∈ function.arguments, value.isNumberText = false) :
    ∃ text, dialect.functionCall function = .ok text ∧
      readCall (dialect.delivered text) =
        some (function.name, function.arguments.map dialect.argumentOf) := by
  refine ⟨_, if_pos named, ?_⟩
  by_cases percent : dialect.style = .percent
  · rw [delivered_functionCall percent named exact,
      readCall_functionCall (by simp [inStyle]) named exact,
      List.map_congr_left fun value _ => dialect.argumentOf_inStyle .atSign value]
  · rw [delivered, if_neg percent]
    exact readCall_functionCall percent named exact

/-- Arguments full of quotes, commas, parentheses and percent signs. -/
def awkwardCall : TableFunction where
  name := "dbo.found"
  arguments := [.text "it's 100%, (sic)", .null, .text "''%%)", .bool true, .int (-7),
    .bytes [0x27, 0x25]]

theorem awkwardCall_reads :
    let dialect : Dialect := ⟨.postgres .keep, .percent⟩
    isFunctionName awkwardCall.name = true ∧
      (∀ value ∈ awkwardCall.arguments, value.isNumberText = false) ∧
      ∃ text, dialect.functionCall awkwardCall = .ok text ∧
        text = "dbo.found('it''s 100%%, (sic)', NULL, '''''%%%%)', TRUE, -7, 'b\"''%%\"')" ∧
        readCall (dialect.delivered text) = some ("dbo.found",
          [.quoted "it's 100%, (sic)", .word "NULL", .quoted "''%%)", .word "TRUE", .word "-7",
            .quoted "b\"'%\""]) := by
  intro dialect
  have named : isFunctionName awkwardCall.name = true := by decide +kernel
  have exact : ∀ value ∈ awkwardCall.arguments, value.isNumberText = false := by decide
  obtain ⟨text, called, read⟩ := functionCall_reads dialect awkwardCall named exact
  refine ⟨named, exact, text, called, ?_, read.trans (by decide +kernel)⟩
  have written : (dialect.functionCall awkwardCall).toOption = some
      "dbo.found('it''s 100%%, (sic)', NULL, '''''%%%%)', TRUE, -7, 'b\"''%%\"')" := by
    decide +kernel
  rw [called] at written
  exact Option.some.inj written

end Dialect

end EntitySql
