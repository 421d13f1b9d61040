import EntitySql.Proofs.Dialect.FunctionName
import EntitySql.Proofs.Predicate.Rendering
import EntitySql.Proofs.Sql.Composition

/-!
# Placeholders in the text of a statement

Placeholders count outside of quoted text only: outside of string literals and of quoted
identifiers.  In a composed text they are those of the parameters that it mentions, as
long as no name in it is quoted already.
-/

namespace EntitySql

namespace Value

/-- Letters, digits and the marks that the texts of numbers have. -/
def isNumeric (c : Char) : Bool := c.isAlphanum || ['.', '+', '-'].contains c

/-- A number that is carried as a text has the text of a number. -/
def isLegible : Value → Bool
  | float content => content.toList.all isNumeric
  | decimal content => content.toList.all isNumeric
  | _ => true

end Value

namespace Sql

/-- The character that ends the quoted text which a character begins, if it begins one. -/
def quoteEnd? (dialect : Dialect) (c : Char) : Option Char :=
  if c = '\'' then some '\''
  else if c = dialect.delimiters.opening then some dialect.delimiters.closing
  else none

/-- The name in a placeholder. -/
def Token.parameter? : Token → Option String
  | .operand (.parameter name) => some name
  | _ => none

/-- The names in the placeholders of a text outside of quoted text, from left to right. -/
def placeholdersIn (dialect : Dialect) (text : List Char) : List String :=
  match text with
  | [] => []
  | c :: rest =>
    match quoteEnd? dialect c with
    | some closing =>
      match _read : Text.unquoteAfter closing rest with
      | some (_, later) => placeholdersIn dialect later
      | none => []
    | none =>
      match _read : readPlaceholder dialect.style (c :: rest) with
      | some (token, later) => token.parameter?.toList ++ placeholdersIn dialect later
      | none => placeholdersIn dialect rest
termination_by text.length
decreasing_by
  · exact Nat.lt_succ_of_lt (Text.length_of_unquoteAfter ‹_›)
  · exact length_of_readPlaceholder ‹_›
  · simp

variable {dialect : Dialect} {text rest word content : List Char} {c closing : Char}

/-- A character that begins neither quoted text nor a placeholder. -/
def isSilent (dialect : Dialect) (c : Char) : Bool :=
  quoteEnd? dialect c == none && c != '@' && c != '%' && c != ':'

theorem readPlaceholder_of_silent (silent : isSilent dialect c = true) (style : PlaceholderStyle) :
    readPlaceholder style (c :: rest) = none := by
  simp only [isSilent, Bool.and_eq_true, bne_iff_ne] at silent
  obtain ⟨⟨⟨_, notAt⟩, notPercent⟩, notColon⟩ := silent
  cases style <;> simp [readPlaceholder, leadOf, List.dropPrefix?, notAt, notPercent, notColon]

theorem placeholdersIn_silent (silent : ∀ c ∈ word, isSilent dialect c = true) :
    placeholdersIn dialect (word ++ rest) = placeholdersIn dialect rest := by
  induction word with
  | nil => rfl
  | cons c word ih =>
      have first := silent c (by simp)
      have notQuote : quoteEnd? dialect c = none := by
        simp only [isSilent, Bool.and_eq_true, beq_iff_eq] at first
        exact first.1.1.1
      rw [List.cons_append, placeholdersIn]
      simp only [notQuote]
      split
      · rename_i read
        rw [readPlaceholder_of_silent first] at read
        cases read
      · exact ih fun c member => silent c (by simp [member])

theorem placeholdersIn_quoted (opens : quoteEnd? dialect c = some closing)
    (ends : rest.head? ≠ some closing) :
    placeholdersIn dialect (c :: (Text.doubleEach closing content ++ closing :: rest)) =
      placeholdersIn dialect rest := by
  have unquoted := Text.unquoteAfter_doubleEach closing content rest ends
  rw [placeholdersIn]
  simp only [opens]
  split
  · rename_i read
    rw [unquoted] at read
    cases read
    rfl
  · rename_i read
    rw [unquoted] at read
    cases read

/-- The characters that begin quoted text or placeholders in some dialect. -/
def markers : List Char := ['\'', '"', '[', '@', '%', ':']

theorem isSilent_of_not_marker (notMarker : c ∉ markers) : isSilent dialect c = true := by
  simp only [markers, List.mem_cons, List.not_mem_nil, or_false, not_or] at notMarker
  obtain ⟨notSingle, notDouble, notBracket, notAt, notPercent, notColon⟩ := notMarker
  have notOpening : c ≠ dialect.delimiters.opening :=
    (Dialect.opening_ne notBracket notDouble).symm
  simp [isSilent, quoteEnd?, notSingle, notOpening, notAt, notPercent, notColon]

/-- A class of characters without markers is silent. -/
theorem isSilent_of_class {inClass : Char → Bool}
    (noMarkers : markers.all (fun c => !inClass c) = true) (member : inClass c = true) :
    isSilent dialect c = true := by
  apply isSilent_of_not_marker
  intro isMarker
  have outside := List.all_eq_true.mp noMarkers c isMarker
  rw [member] at outside
  cases outside

theorem placeholdersIn_words {words : String} (plain : words.toList.all isPlain = true) :
    placeholdersIn dialect (words.toList ++ rest) = placeholdersIn dialect rest :=
  placeholdersIn_silent fun c member =>
    isSilent_of_class (by decide) (List.all_eq_true.mp plain c member)

theorem placeholdersIn_parameter {name : String} (readable : (Operand.parameter name).Readable)
    (stops : ∀ c ∈ rest.head?, Text.isWord c = false) :
    placeholdersIn dialect ((dialect.placeholder name).toList ++ rest) =
      name :: placeholdersIn dialect rest := by
  have read := readPlaceholder_text readable stops dialect.style
  have lead : ∃ c others, leadOf dialect.style = c :: others ∧ quoteEnd? dialect c = none := by
    unfold quoteEnd? Dialect.delimiters
    cases dialect.style <;> split <;> exact ⟨_, _, rfl, by decide⟩
  obtain ⟨c, others, lead_eq, notQuote⟩ := lead
  rw [placeholder_toList, List.append_assoc, List.append_assoc]
  rw [lead_eq, List.cons_append] at read ⊢
  rw [placeholdersIn]
  simp only [notQuote]
  split
  · rename_i reads
    rw [read, Option.some.injEq, Prod.mk.injEq] at reads
    rw [← reads.1, ← reads.2]
    rfl
  · rename_i unread
    rw [read] at unread
    cases unread

theorem placeholdersIn_enclose (name : String)
    (ends : rest.head? ≠ some dialect.delimiters.closing) :
    placeholdersIn dialect ((dialect.delimiters.enclose name).toList ++ rest) =
      placeholdersIn dialect rest := by
  have opens : quoteEnd? dialect dialect.delimiters.opening = some dialect.delimiters.closing := by
    unfold quoteEnd? Dialect.delimiters
    split <;> decide
  simpa using placeholdersIn_quoted opens ends

end Sql

/-! ## Names -/

namespace Dialect

variable {dialect : Dialect} {name owner : String} {value : Value} {rest : List Char}

open Sql (placeholdersIn placeholdersIn_enclose placeholdersIn_silent placeholdersIn_words
  placeholdersIn_quoted isSilent isSilent_of_not_marker isSilent_of_class)

/-- A name is quoted neither as a whole nor in a segment. -/
def Unquoted (dialect : Dialect) (name : String) : Prop :=
  dialect.isDelimited name = false ∧ ∀ segment ∈ segments name, dialect.isDelimited segment = false

instance (dialect : Dialect) (name : String) : Decidable (dialect.Unquoted name) :=
  inferInstanceAs (Decidable (_ ∧ _))

theorem segments_append (owner name : String) :
    segments (owner ++ "." ++ name) = segments owner ++ segments name := by
  have characters : (owner ++ "." ++ name).toList = owner.toList ++ '.' :: name.toList := by simp
  simp only [segments, List.splitOn, characters]
  rw [List.splitOnP_append_cons _ _ (by decide), List.map_append]

theorem segments_of_undotted (undotted : '.' ∉ name.toList) : segments name = [name] := by
  rw [segments, List.splitOn_eq_singleton undotted]
  simp

/-- What follows does not prolong a quoted identifier or a literal. -/
def Ends (rest : List Char) : Prop := ∀ c ∈ rest.head?, c ∈ [' ', ',', ')', ';', '.']

theorem Ends.ne_closing (ends : Ends rest) : rest.head? ≠ some dialect.delimiters.closing := by
  intro head
  have separates := ends _ head
  rcases dialect.closing_cases with closes | closes
  · rw [closes] at separates
    revert separates
    decide
  · rw [closes] at separates
    revert separates
    decide

theorem Ends.ne_quote (ends : Ends rest) : rest.head? ≠ some '\'' := by
  intro head
  have separates := ends _ head
  revert separates
  decide

theorem placeholdersIn_identifier (unquoted : dialect.isDelimited name = false) (ends : Ends rest) :
    placeholdersIn dialect ((dialect.identifier name).toList ++ rest) =
      placeholdersIn dialect rest := by
  by_cases given : name = ""
  · subst given
    rfl
  · rw [identifier_of_not_delimited given unquoted]
    exact placeholdersIn_enclose (dialect.fold name) ends.ne_closing

theorem placeholdersIn_dotted {names : List String}
    (unquoted : ∀ name ∈ names, dialect.isDelimited name = false) (ends : Ends rest) :
    placeholdersIn dialect ((".".intercalate (names.map dialect.identifier)).toList ++ rest) =
      placeholdersIn dialect rest := by
  induction names with
  | nil => rfl
  | cons name others ih =>
      have first := unquoted name (by simp)
      cases others with
      | nil => simpa using placeholdersIn_identifier first ends
      | cons next others =>
          have later := ih fun name member => unquoted name (by simp [member])
          have text_eq : (".".intercalate ((name :: next :: others).map dialect.identifier)).toList =
              (dialect.identifier name).toList ++ ['.'] ++
                (".".intercalate ((next :: others).map dialect.identifier)).toList := by
            simp [String.intercalate_cons_cons]
          rw [text_eq, List.append_assoc, List.append_assoc,
            placeholdersIn_identifier first (by simp [Ends]),
            placeholdersIn_silent (by simpa using isSilent_of_not_marker (by decide)), later]

theorem placeholdersIn_table
    (unquoted : ∀ segment ∈ segments name, dialect.isDelimited segment = false) (ends : Ends rest) :
    placeholdersIn dialect ((dialect.tableText name).toList ++ rest) = placeholdersIn dialect rest :=
  placeholdersIn_dotted unquoted ends

theorem placeholdersIn_joined (ownerUnquoted : dialect.Unquoted owner)
    (unquoted : dialect.Unquoted name) (ends : Ends rest) :
    placeholdersIn dialect ((dialect.tableText (owner ++ "." ++ name)).toList ++ rest) =
      placeholdersIn dialect rest := by
  apply placeholdersIn_table _ ends
  rw [segments_append]
  intro segment member
  rcases List.mem_append.mp member with ofOwner | ofName
  · exact ownerUnquoted.2 segment ofOwner
  · exact unquoted.2 segment ofName

theorem placeholdersIn_column {qualifier : Option String}
    (qualifierUnquoted : ∀ owner ∈ qualifier, dialect.Unquoted owner)
    (unquoted : dialect.Unquoted name) (ends : Ends rest) :
    placeholdersIn dialect ((dialect.columnText qualifier name).toList ++ rest) =
      placeholdersIn dialect rest := by
  cases qualifier with
  | none => exact placeholdersIn_identifier unquoted.1 ends
  | some owner =>
      simp only [columnText]
      split
      · exact placeholdersIn_identifier unquoted.1 ends
      · exact placeholdersIn_joined (qualifierUnquoted owner rfl) unquoted ends

/-- The alias of an entry is quoted like any identifier. -/
theorem selectEntry_eq (dialect : Dialect) (qualifier : Option String) (name : String) :
    dialect.selectEntry qualifier name = dialect.columnText qualifier name ∨
      dialect.selectEntry qualifier name =
        dialect.columnText qualifier name ++ " AS " ++ dialect.delimiters.enclose name := by
  unfold selectEntry
  split
  · exact .inl rfl
  · rename_i folds
    obtain ⟨backend, style⟩ := dialect
    cases backend with
    | postgres folding =>
        right
        apply String.toList_inj.mp
        simp [Text.doubled, delimiters]
    | _ => simp [fold, Dialect.folding, Folding.apply] at folds

theorem placeholdersIn_entry {qualifier : Option String}
    (qualifierUnquoted : ∀ owner ∈ qualifier, dialect.Unquoted owner)
    (unquoted : dialect.Unquoted name) (ends : Ends rest) :
    placeholdersIn dialect ((dialect.selectEntry qualifier name).toList ++ rest) =
      placeholdersIn dialect rest := by
  rcases dialect.selectEntry_eq qualifier name with plain | aliased
  · rw [plain]
    exact placeholdersIn_column qualifierUnquoted unquoted ends
  · rw [aliased, String.toList_append, String.toList_append, List.append_assoc, List.append_assoc,
      placeholdersIn_column qualifierUnquoted unquoted (by simp [Ends]),
      placeholdersIn_words (by decide), placeholdersIn_enclose name ends.ne_closing]

/-! ## Literals -/

theorem placeholdersIn_numeric {content : String}
    (numeric : content.toList.all Value.isNumeric = true) :
    placeholdersIn dialect (content.toList ++ rest) = placeholdersIn dialect rest :=
  placeholdersIn_silent fun c member =>
    isSilent_of_class (by decide) (List.all_eq_true.mp numeric c member)

theorem doubleEach_comm (first second : Char) (content : List Char) :
    Text.doubleEach first (Text.doubleEach second content) =
      Text.doubleEach second (Text.doubleEach first content) := by
  induction content with
  | nil => rfl
  | cons c content ih =>
      by_cases isFirst : c = first <;> by_cases isSecond : c = second
      · subst isFirst isSecond
        rfl
      all_goals simp_all [Text.doubleEach]

/-- A text is written between quotes, inside of which quotes are doubled. -/
theorem toList_textLiteral (dialect : Dialect) (content : String) :
    ∃ inner, (dialect.textLiteral content).toList =
      '\'' :: (Text.doubleEach '\'' inner ++ ['\'']) := by
  unfold textLiteral
  split
  · exact ⟨Text.doubleEach '%' content.toList, by simp [Text.doubled, doubleEach_comm]⟩
  · exact ⟨content.toList, by simp [Text.doubled]⟩

theorem placeholdersIn_textLiteral (content : String) (ends : Ends rest) :
    placeholdersIn dialect ((dialect.textLiteral content).toList ++ rest) =
      placeholdersIn dialect rest := by
  obtain ⟨inner, text_eq⟩ := dialect.toList_textLiteral content
  have quoted : placeholdersIn dialect ('\'' :: (Text.doubleEach '\'' inner ++ '\'' :: rest)) =
      placeholdersIn dialect rest :=
    placeholdersIn_quoted (by simp [Sql.quoteEnd?]) ends.ne_quote
  simpa [text_eq] using quoted

theorem placeholdersIn_literal (legible : value.isLegible = true) (ends : Ends rest) :
    placeholdersIn dialect ((dialect.literal value).toList ++ rest) =
      placeholdersIn dialect rest := by
  cases value with
  | null =>
      have plain : "NULL".toList.all Sql.isPlain = true := by decide
      exact placeholdersIn_words plain
  | bool truth =>
      have plain : (dialect.truthLiteral truth).toList.all Sql.isPlain = true := by
        unfold truthLiteral
        split <;> decide
      exact placeholdersIn_words plain
  | int number =>
      exact placeholdersIn_words (Sql.isPlain_of_isWording (Sql.closes_toString_int number).1)
  | float content => exact placeholdersIn_numeric legible
  | decimal content => exact placeholdersIn_numeric legible
  | _ => exact placeholdersIn_textLiteral _ ends

/-! ## Function calls -/

/-- The characters of function names. -/
def inFunctionName (c : Char) : Bool := continuesName c || c == '.' || c == '\n'

theorem inFunctionName_of_isFunctionName (named : isFunctionName name = true) :
    ∀ c ∈ name.toList, inFunctionName c = true := by
  intro c member
  rcases mem_of_isAccepted (isFunctionName_iff.mp named) c member with follows | rfl | rfl
  · simp [inFunctionName, continuesName_iff.mpr follows]
  · decide
  · decide

theorem isSilent_of_isFunctionName (named : isFunctionName name = true) :
    ∀ c ∈ name.toList, isSilent dialect c = true :=
  fun c member => isSilent_of_class (by decide) (inFunctionName_of_isFunctionName named c member)

theorem placeholdersIn_arguments {arguments : List Value}
    (legible : ∀ argument ∈ arguments, argument.isLegible = true) (ends : Ends rest) :
    placeholdersIn dialect ((", ".intercalate (arguments.map dialect.literal)).toList ++ rest) =
      placeholdersIn dialect rest := by
  induction arguments with
  | nil => rfl
  | cons argument others ih =>
      have first := legible argument (by simp)
      cases others with
      | nil => simpa using placeholdersIn_literal first ends
      | cons next others =>
          have later := ih fun argument member => legible argument (by simp [member])
          have text_eq : (", ".intercalate ((argument :: next :: others).map dialect.literal)).toList =
              (dialect.literal argument).toList ++ (", ".toList ++
                (", ".intercalate ((next :: others).map dialect.literal)).toList) := by
            simp [String.intercalate_cons_cons]
          rw [text_eq, List.append_assoc, List.append_assoc,
            placeholdersIn_literal first (by simp [Ends]), placeholdersIn_words (by decide), later]

theorem placeholdersIn_functionCall {function : TableFunction} {text : String}
    (called : dialect.functionCall function = .ok text)
    (legible : ∀ argument ∈ function.arguments, argument.isLegible = true) :
    placeholdersIn dialect (text.toList ++ rest) = placeholdersIn dialect rest := by
  unfold functionCall at called
  split at called
  · rename_i named
    cases called
    simp only [String.toList_append, List.append_assoc]
    rw [placeholdersIn_silent (isSilent_of_isFunctionName named), placeholdersIn_words (by decide),
      placeholdersIn_arguments legible (by simp [Ends]), placeholdersIn_words (by decide)]
  · cases called

/-! ## Names that are no texts -/

/-- What is left out is written like the value that it is. -/
theorem placeholdersIn_notGiven (notGiven : value.isGiven = false) (legible : value.isLegible = true)
    (unquoted : dialect.isDelimited value.plainText = false) (ends : Ends rest) :
    placeholdersIn dialect (value.plainText.toList ++ rest) = placeholdersIn dialect rest := by
  have silent {text : String}
      (noMarkers : Sql.markers.all (fun c => !text.toList.contains c) = true) :
      placeholdersIn dialect (text.toList ++ rest) = placeholdersIn dialect rest :=
    placeholdersIn_silent fun c member =>
      isSilent_of_class noMarkers (List.contains_iff_mem.mpr member)
  cases value with
  | null => exact silent (by decide)
  | bool truth =>
      cases truth with
      | true => cases notGiven
      | false => exact silent (by decide)
  | int number =>
      exact placeholdersIn_words (Sql.isPlain_of_isWording (Sql.closes_toString_int number).1)
  | float content => exact placeholdersIn_numeric legible
  | decimal content => exact placeholdersIn_numeric legible
  | text content =>
      obtain rfl : content = "" := by simpa [Value.isGiven] using notGiven
      rfl
  | bytes content =>
      obtain rfl : content = [] := by simpa [Value.isGiven] using notGiven
      have plain : "b".toList.all Sql.isPlain = true := by decide
      have quoted : placeholdersIn dialect ('\'' :: (Text.doubleEach '\'' [] ++ '\'' :: rest)) =
          placeholdersIn dialect rest :=
        placeholdersIn_quoted (by simp [Sql.quoteEnd?]) ends.ne_quote
      exact (placeholdersIn_words plain).trans quoted
  | list items =>
      obtain rfl : items = [] := by simpa [Value.isGiven] using notGiven
      have brackets : ∀ c ∈ ['[', ']'], isSilent dialect c = true := by
        obtain ⟨backend, style⟩ := dialect
        cases backend with
        | sqlServer => cases unquoted
        | _ => simp [isSilent, Sql.quoteEnd?, delimiters]
      exact placeholdersIn_silent brackets
  | tuple items =>
      obtain rfl : items = [] := by simpa [Value.isGiven] using notGiven
      exact silent (by decide)
  | dict entries =>
      obtain rfl : entries = [] := by simpa [Value.isGiven] using notGiven
      exact silent (by decide)
  | _ => cases notGiven

theorem placeholdersIn_unnamed (legible : value.isLegible = true)
    (unquoted : dialect.isDelimited value.plainText = false) (ends : Ends rest) :
    placeholdersIn dialect (((Sql.Mention.unnamed value).text dialect).toList ++ rest) =
      placeholdersIn dialect rest := by
  cases rendering : (dialect.identifierOf value).map Value.plainText with
  | error fault => simp [Sql.Mention.text, rendering, Except.toOption]
  | ok text =>
      have text_eq : (Sql.Mention.unnamed value).text dialect = text := by
        simp [Sql.Mention.text, rendering, Except.toOption]
      rw [text_eq]
      unfold identifierOf at rendering
      split at rendering
      · cases rendering
        exact placeholdersIn_identifier unquoted ends
      · cases given : value.isGiven with
        | true =>
            obtain ⟨content, rfl⟩ := Scope.enclosed_of_plainText given rendering
            exact placeholdersIn_enclose content ends.ne_closing
        | false =>
            simp only [identifierOfOther, given] at rendering
            cases rendering
            exact placeholdersIn_notGiven given legible unquoted ends

/-! ## Identities -/

theorem placeholdersIn_identity (owner name : String) :
    placeholdersIn dialect ((dialect.identityExpression owner name).toList ++ rest) =
      placeholdersIn dialect rest := by
  have argument (content : String) {later : List Char} (ends : later.head? ≠ some '\'') :
      placeholdersIn dialect ('\'' :: (Text.doubleEach '\'' content.toList ++ '\'' :: later)) =
        placeholdersIn dialect later :=
    placeholdersIn_quoted (by simp [Sql.quoteEnd?]) ends
  unfold identityExpression
  split
  · exact placeholdersIn_words (by decide)
  · exact placeholdersIn_words (by decide)
  · have text_eq (owner name : String) :
        ("currval(pg_get_serial_sequence('" ++ Text.doubled '\'' owner ++ "', '" ++
          Text.doubled '\'' name ++ "'))").toList ++ rest =
        "currval(pg_get_serial_sequence(".toList ++
          ('\'' :: (Text.doubleEach '\'' owner.toList ++ '\'' :: (", ".toList ++
            ('\'' :: (Text.doubleEach '\'' name.toList ++ '\'' :: ("))".toList ++ rest)))))) := by
      simp [Text.doubled]
    rw [text_eq, placeholdersIn_words (by decide), argument _ (by simp),
      placeholdersIn_words (by decide), argument _ (by simp), placeholdersIn_words (by decide)]

end Dialect

/-! ## Composed texts -/

namespace Sql

/-- The names in what is mentioned are not quoted already, parameters have readable
names, and numbers are written as numbers. -/
def Mention.Unquoted (dialect : Dialect) : Mention → Prop
  | table name => dialect.Unquoted name
  | column owner name => (∀ table ∈ owner, dialect.Unquoted table) ∧ dialect.Unquoted name
  | entry owner name => (∀ table ∈ owner, dialect.Unquoted table) ∧ dialect.Unquoted name
  | joined owner name => dialect.Unquoted owner ∧ dialect.Unquoted name
  | unnamed name => name.isLegible = true ∧ dialect.Unquoted name.plainText
  | parameter name => (Operand.parameter name).Readable
  | call function => ∀ argument ∈ function.arguments, argument.isLegible = true
  | identity _ _ => True

variable {dialect : Dialect} {text : String} {mention : Mention} {mentions : List Mention}

/-- In front of a separated text, what is mentioned reads as a placeholder if it is a
parameter, and as none otherwise. -/
def Mention.Legible (dialect : Dialect) (mention : Mention) : Prop :=
  ∀ text, Separated text → placeholdersIn dialect (mention.text dialect ++ text).toList =
    mention.parameter?.toList ++ placeholdersIn dialect text.toList

theorem Separated.ends (separated : Separated text) : Dialect.Ends text.toList := by
  intro c first
  have separates := separated c first
  simp only [List.mem_cons] at separates ⊢
  tauto

theorem Mention.legible_table {name : String}
    (unquoted : ∀ segment ∈ Dialect.segments name, dialect.isDelimited segment = false) :
    (Mention.table name).Legible dialect := by
  intro text separated
  rw [String.toList_append]
  exact Dialect.placeholdersIn_table unquoted separated.ends

/-- Without a table in front, only a column that is quoted as a whole is left as it is. -/
theorem Mention.legible_column {name : String} (unquoted : dialect.isDelimited name = false) :
    (Mention.column none name).Legible dialect := by
  intro text separated
  rw [String.toList_append]
  exact Dialect.placeholdersIn_identifier unquoted separated.ends

theorem Mention.legible_unnamed {name : Value} (legible : name.isLegible = true)
    (unquoted : dialect.isDelimited name.plainText = false) :
    (Mention.unnamed name).Legible dialect := by
  intro text separated
  rw [String.toList_append]
  exact Dialect.placeholdersIn_unnamed legible unquoted separated.ends

theorem Mention.legible_parameter {name : String} (readable : (Operand.parameter name).Readable) :
    (Mention.parameter name).Legible dialect := by
  intro text separated
  rw [String.toList_append]
  refine placeholdersIn_parameter readable fun c first => ?_
  have separates := separated c first
  simp only [List.mem_cons, List.not_mem_nil, or_false] at separates
  obtain rfl | rfl | rfl | rfl := separates <;> decide

theorem Mention.Unquoted.legible (unquoted : mention.Unquoted dialect) :
    mention.Legible dialect := by
  cases mention with
  | table name => exact legible_table unquoted.2
  | unnamed name => exact legible_unnamed unquoted.1 unquoted.2.1
  | parameter name => exact legible_parameter unquoted
  | column owner name =>
      intro text separated
      rw [String.toList_append]
      exact Dialect.placeholdersIn_column unquoted.1 unquoted.2 separated.ends
  | entry owner name =>
      intro text separated
      rw [String.toList_append]
      exact Dialect.placeholdersIn_entry unquoted.1 unquoted.2 separated.ends
  | joined owner name =>
      intro text separated
      rw [String.toList_append]
      exact Dialect.placeholdersIn_joined unquoted.1 unquoted.2 separated.ends
  | call function =>
      intro text separated
      rw [String.toList_append]
      cases called : dialect.functionCall function with
      | error fault => simp [Mention.text, Mention.parameter?, called, Except.toOption]
      | ok call =>
          have text_eq : (Mention.call function).text dialect = call := by
            simp [Mention.text, called, Except.toOption]
          rw [text_eq]
          exact Dialect.placeholdersIn_functionCall called unquoted
  | identity owner name =>
      intro text separated
      rw [String.toList_append]
      exact Dialect.placeholdersIn_identity owner name

/-- The placeholders of a composed text are those of the parameters it mentions, if all that
it mentions is legible. -/
theorem Composed.placeholders_of_legible (composed : Composed dialect text mentions)
    (legible : ∀ mention ∈ mentions, mention.Legible dialect) :
    placeholdersIn dialect text.toList = mentions.filterMap (·.parameter?) := by
  induction composed with
  | nil => simp [placeholdersIn]
  | words words plain _ ih =>
      rw [String.toList_append, placeholdersIn_words plain, ih legible]
  | mention mention separated _ ih =>
      have first := legible mention (by simp)
      have later := ih fun mention member => legible mention (by simp [member])
      rw [first _ separated, later]
      cases mention <;> rfl

/-- The placeholders of a composed text are those of the parameters it mentions. -/
theorem Composed.placeholders (composed : Composed dialect text mentions)
    (unquoted : ∀ mention ∈ mentions, mention.Unquoted dialect) :
    placeholdersIn dialect text.toList = mentions.filterMap (·.parameter?) :=
  composed.placeholders_of_legible fun mention member => (unquoted mention member).legible

end Sql

end EntitySql
