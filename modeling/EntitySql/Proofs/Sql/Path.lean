import EntitySql.Proofs.Sql.Placeholder

/-!
# Paths of names in a SELECT

A reader that goes through the text of a SELECT from left to right and collects the
paths of quoted names in it.  A path behind FROM or JOIN names a table, and any other path
a column, behind the table that qualifies it.  No table is named after WHERE or ORDER.
-/

namespace EntitySql

theorem Value.isNumeric_toString (number : Nat) :
    (toString number).toList.all isNumeric = true := by
  rw [Nat.toString_eq_repr, Nat.toList_repr, List.all_eq_true]
  intro c member
  have digit := Nat.isDigit_of_mem_toDigits (by decide) (by decide) member
  simp [isNumeric, Char.isAlphanum, digit]

theorem Value.isNumeric_toString_int (number : Int) :
    (toString number).toList.all isNumeric = true := by
  cases number with
  | ofNat number => exact isNumeric_toString number
  | negSucc number =>
      have negated : ("-" ++ toString (number + 1)).toList.all isNumeric = true := by
        rw [String.toList_append, List.all_append, isNumeric_toString]
        decide
      exact negated

namespace Sql

/-- Where the reader stands, with the word that it has begun to read. -/
inductive Place where
  | columns (word : List Char)
  | tables (word : List Char)
  | behind
  deriving DecidableEq

namespace Place

/-- What a word and the blank behind it lead to. -/
def entered (word : List Char) (same : Place) : Place :=
  if word = [] then same
  else if word = "FROM".toList ∨ word = "JOIN".toList then tables []
  else if word = "WHERE".toList ∨ word = "ORDER".toList then behind
  else columns []

def next (place : Place) (c : Char) : Place :=
  match place with
  | columns word => if c = ' ' then entered word (columns []) else columns (word ++ [c])
  | tables word => if c = ' ' then entered word (tables []) else tables (word ++ [c])
  | behind => behind

/-- Quoted text is no part of a word. -/
def afterQuoted : Place → Place
  | columns _ => columns []
  | tables _ => tables []
  | behind => behind

end Place

/-- A table, or a column behind what qualifies it. -/
inductive Reference where
  | table (path : List String)
  | column (path : List String)
  deriving DecidableEq

namespace Reference

def table? : Reference → Option (List String)
  | table path => some path
  | column _ => none

def qualifier? : Reference → Option (List String)
  | table _ => none
  | column path => if path.dropLast = [] then none else some path.dropLast

end Reference

def Place.refer : Place → List String → Reference
  | tables _, path => .table path
  | _, path => .column path

/-- Reads quoted names with dots between them, behind the character that opens the first. -/
def readPath (dialect : Dialect) (text : List Char) : Option (List String × List Char) :=
  match _read : Text.unquoteAfter dialect.delimiters.closing text with
  | none => none
  | some (content, '.' :: c :: rest) =>
    if c = dialect.delimiters.opening then
      (readPath dialect rest).map fun (path, left) => (String.ofList content :: path, left)
    else some ([String.ofList content], '.' :: c :: rest)
  | some (content, later) => some ([String.ofList content], later)
termination_by text.length
decreasing_by
  have shorter := Text.length_of_unquoteAfter _read
  simp only [List.length_cons] at shorter
  omega

theorem length_of_readPath {dialect : Dialect} {text left : List Char} {path : List String}
    (read : readPath dialect text = some (path, left)) : left.length < text.length := by
  fun_induction readPath dialect text generalizing path with
  | case1 text unread => cases read
  | case2 text content rest unquoted ih =>
      obtain ⟨⟨names, _⟩, later, same⟩ := Option.map_eq_some_iff.mp read
      cases same
      have shorter := Text.length_of_unquoteAfter unquoted
      have shortest := ih later
      simp only [List.length_cons] at shorter
      omega
  | case3 text content c rest unquoted other =>
      cases read
      exact Text.length_of_unquoteAfter unquoted
  | case4 text content later noDot unquoted =>
      cases read
      exact Text.length_of_unquoteAfter unquoted

/-- What a text refers to, from left to right. -/
def referencesIn (dialect : Dialect) (place : Place) (text : List Char) : List Reference :=
  match text with
  | [] => []
  | c :: rest =>
    if c = '\'' then
      match _read : Text.unquoteAfter '\'' rest with
      | some (_, later) => referencesIn dialect place.afterQuoted later
      | none => []
    else if c = dialect.delimiters.opening then
      match _read : readPath dialect rest with
      | some (path, later) => place.refer path :: referencesIn dialect place.afterQuoted later
      | none => []
    else referencesIn dialect (place.next c) rest
termination_by text.length
decreasing_by
  · exact Nat.lt_succ_of_lt (Text.length_of_unquoteAfter _read)
  · exact Nat.lt_succ_of_lt (length_of_readPath _read)
  · simp

/-- The tables that a SELECT lists behind FROM and JOIN. -/
def tablesIn (dialect : Dialect) (sql : String) : List (List String) :=
  (referencesIn dialect (.columns []) sql.toList).filterMap (·.table?)

/-- The tables by which a SELECT qualifies its columns. -/
def qualifiersIn (dialect : Dialect) (sql : String) : List (List String) :=
  (referencesIn dialect (.columns []) sql.toList).filterMap (·.qualifier?)

variable {dialect : Dialect} {place : Place} {rest word content : List Char} {c : Char}

/-- What stands behind a name or a literal. -/
def Parts (rest : List Char) : Prop := ∀ c ∈ rest.head?, c ∈ [' ', ',', ')', ';']

theorem Parts.ends (parts : Parts rest) : Dialect.Ends rest := by
  intro c first
  have separates := parts c first
  simp only [List.mem_cons] at separates ⊢
  tauto

theorem parts_blank : Parts (' ' :: rest) := by simp [Parts]

/-! ## Unquoted text -/

theorem referencesIn_unquoted (unquoted : ∀ c ∈ word, quoteEnd? dialect c = none) :
    referencesIn dialect place (word ++ rest) =
      referencesIn dialect (word.foldl Place.next place) rest := by
  induction word generalizing place with
  | nil => rfl
  | cons c word ih =>
      have first := unquoted c (by simp)
      have noQuote : c ≠ '\'' := by
        rintro rfl
        simp [quoteEnd?] at first
      have noOpening : c ≠ dialect.delimiters.opening := by
        rintro rfl
        simp [quoteEnd?, noQuote] at first
      rw [List.cons_append, referencesIn, if_neg noQuote, if_neg noOpening]
      exact ih fun c member => unquoted c (by simp [member])

/-- A class of characters without quotation marks and brackets quotes nothing. -/
theorem quoteEnd?_of_class {inClass : Char → Bool}
    (noQuotes : ['\'', '"', '['].all (fun c => !inClass c) = true) (member : inClass c = true) :
    quoteEnd? dialect c = none := by
  have other : c ∉ ['\'', '"', '['] := fun isQuote => by
    have outside := List.all_eq_true.mp noQuotes c isQuote
    rw [member] at outside
    cases outside
  simp only [List.mem_cons, List.not_mem_nil, or_false, not_or] at other
  obtain ⟨notSingle, notDouble, notBracket⟩ := other
  have notOpening : c ≠ dialect.delimiters.opening :=
    (Dialect.opening_ne notBracket notDouble).symm
  simp [quoteEnd?, notSingle, notOpening]

theorem referencesIn_words {words : String} (plain : words.toList.all isPlain = true) :
    referencesIn dialect place (words.toList ++ rest) =
      referencesIn dialect (words.toList.foldl Place.next place) rest :=
  referencesIn_unquoted fun _ member =>
    quoteEnd?_of_class (by decide) (List.all_eq_true.mp plain _ member)

@[simp]
theorem foldl_next_behind (word : List Char) : word.foldl Place.next .behind = .behind := by
  induction word with
  | nil => rfl
  | cons c word ih => exact ih

theorem referencesIn_plain {words : String} (plain : words.toList.all isPlain = true) :
    referencesIn dialect place words.toList = [] := by
  have all : referencesIn dialect place (words.toList ++ []) = referencesIn dialect _ [] :=
    referencesIn_words plain
  rw [List.append_nil] at all
  rw [all, referencesIn]

/-! ## Quoted text -/

theorem referencesIn_literal (ends : rest.head? ≠ some '\'') :
    referencesIn dialect place ('\'' :: (Text.doubleEach '\'' content ++ '\'' :: rest)) =
      referencesIn dialect place.afterQuoted rest := by
  have unquoted := Text.unquoteAfter_doubleEach '\'' content rest ends
  rw [referencesIn, if_pos rfl]
  split
  · rename_i read
    rw [unquoted] at read
    cases read
    rfl
  · rename_i read
    rw [unquoted] at read
    cases read

/-- Quoted names with dots between them. -/
def pathText (dialect : Dialect) (path : List String) : String :=
  ".".intercalate (path.map dialect.delimiters.enclose)

theorem toList_pathText (dialect : Dialect) (first : String) (others : List String) :
    (pathText dialect (first :: others)).toList =
      (dialect.delimiters.enclose first).toList ++
        others.flatMap fun name => '.' :: (dialect.delimiters.enclose name).toList := by
  induction others generalizing first with
  | nil => simp [pathText]
  | cons next others ih =>
      have joined : pathText dialect (first :: next :: others) =
          dialect.delimiters.enclose first ++ "." ++ pathText dialect (next :: others) := by
        simp [pathText, String.intercalate_cons_cons]
      rw [joined, String.toList_append, ih]
      simp

theorem readPath_of_end {text : List Char}
    (unquoted : Text.unquoteAfter dialect.delimiters.closing text = some (content, rest))
    (parts : Parts rest) : readPath dialect text = some ([String.ofList content], rest) := by
  rw [readPath]
  split
  · rename_i unread
    rw [unquoted] at unread
    cases unread
  · rename_i read
    rw [unquoted] at read
    cases read
    simp [Parts] at parts
  · rename_i read
    rw [unquoted] at read
    cases read
    rfl

theorem readPath_of_dot {text : List Char}
    (unquoted : Text.unquoteAfter dialect.delimiters.closing text =
      some (content, '.' :: dialect.delimiters.opening :: rest)) :
    readPath dialect text =
      (readPath dialect rest).map fun (path, left) => (String.ofList content :: path, left) := by
  rw [readPath]
  split
  · rename_i unread
    rw [unquoted] at unread
    cases unread
  · rename_i read
    rw [unquoted] at read
    cases read
    rw [if_pos rfl]
  · rename_i notDot read
    rw [unquoted] at read
    cases read
    exact (notDot _ _ rfl).elim

theorem readPath_names (first : String) (others : List String) (parts : Parts rest) :
    readPath dialect
        (Text.doubleEach dialect.delimiters.closing first.toList ++ dialect.delimiters.closing ::
          ((others.flatMap fun name => '.' :: (dialect.delimiters.enclose name).toList) ++ rest)) =
      some (first :: others, rest) := by
  induction others generalizing first with
  | nil =>
      have unquoted := Text.unquoteAfter_doubleEach dialect.delimiters.closing first.toList rest
        parts.ends.ne_closing
      simpa using readPath_of_end unquoted parts
  | cons next others ih =>
      have noClosing : '.' ≠ dialect.delimiters.closing :=
        (Dialect.closing_ne (by decide) (by decide)).symm
      have unquoted := Text.unquoteAfter_doubleEach dialect.delimiters.closing first.toList
        (((next :: others).flatMap fun name => '.' :: (dialect.delimiters.enclose name).toList) ++
          rest) (by simpa using noClosing)
      have later := ih next
      simp only [Text.Delimiters.toList_enclose] at later
      refine (readPath_of_dot (by simpa using unquoted)).trans ?_
      rw [later]
      simp

/-- A path is read as a whole, as a table or as a column. -/
theorem referencesIn_path {path : List String} (given : path ≠ []) (parts : Parts rest) :
    referencesIn dialect place ((pathText dialect path).toList ++ rest) =
      place.refer path :: referencesIn dialect place.afterQuoted rest := by
  cases path with
  | nil => exact absurd rfl given
  | cons first others =>
      have noQuote : dialect.delimiters.opening ≠ '\'' :=
        Dialect.opening_ne (by decide) (by decide)
      have read : readPath dialect _ = some (first :: others, rest) :=
        readPath_names first others parts
      rw [toList_pathText, Text.Delimiters.toList_enclose]
      simp only [List.cons_append, List.append_assoc, List.nil_append]
      rw [referencesIn, if_neg noQuote, if_pos rfl]
      split
      · rename_i reads
        rw [read] at reads
        cases reads
        rfl
      · rename_i unread
        rw [read] at unread
        cases unread

/-! ## Literals and calls -/

namespace Place

theorem next_ne_behind (noBlank : c ≠ ' ') (ahead : place ≠ behind) : place.next c ≠ behind := by
  cases place with
  | behind => exact absurd rfl ahead
  | _ => simp [next, noBlank]

theorem foldl_next_ne_behind (noBlank : ∀ c ∈ word, c ≠ ' ') (ahead : place ≠ behind) :
    word.foldl next place ≠ behind := by
  induction word generalizing place with
  | nil => exact ahead
  | cons c word ih =>
      exact ih (fun c member => noBlank c (by simp [member]))
        (next_ne_behind (noBlank c (by simp)) ahead)

theorem afterQuoted_ne_behind (ahead : place ≠ behind) : place.afterQuoted ≠ behind := by
  cases place with
  | behind => exact absurd rfl ahead
  | _ => exact nofun

/-- A word that ends with another mark is none of the words that lead somewhere. -/
theorem entered_of_last (noKeyword : c ∉ ['M', 'N', 'E', 'R']) (same : Place) :
    entered (word ++ [c]) same = columns [] := by
  have differs (keyword : String)
      (last : keyword.toList.getLast?.any (['M', 'N', 'E', 'R'].contains ·) = true) :
      word ++ [c] ≠ keyword.toList := by
    intro equal
    rw [← equal, List.getLast?_concat] at last
    exact noKeyword (List.contains_iff_mem.mp last)
  have notFrom := differs "FROM" (by decide)
  have notJoin := differs "JOIN" (by decide)
  have notWhere := differs "WHERE" (by decide)
  have notOrder := differs "ORDER" (by decide)
  simp only [entered, notFrom, notJoin, notWhere, notOrder, or_self, if_false]
  simp

theorem next_mark_blank (noKeyword : c ∉ ['M', 'N', 'E', 'R', ' ']) (ahead : place ≠ behind) :
    (place.next c).next ' ' = columns [] := by
  have noBlank : c ≠ ' ' := by simp_all
  have last : c ∉ ['M', 'N', 'E', 'R'] := by simp_all
  cases place with
  | behind => exact absurd rfl ahead
  | columns word => simp [next, noBlank, entered_of_last last]
  | tables word => simp [next, noBlank, entered_of_last last]

end Place

/-- A literal refers to nothing and does not bring the reader behind the tables. -/
theorem referencesIn_value {value : Value} (legible : value.isLegible = true)
    (ahead : place ≠ .behind) :
    ∃ reached, reached ≠ .behind ∧ ∀ rest, Parts rest →
      referencesIn dialect place ((dialect.literal value).toList ++ rest) =
        referencesIn dialect reached rest := by
  have unblank {words : String} (inClass : Char → Bool)
      (noQuotes : ['\'', '"', '['].all (fun c => !inClass c) = true) (noBlank : inClass ' ' = false)
      (members : words.toList.all inClass = true) :
      ∃ reached, reached ≠ .behind ∧ ∀ rest, Parts rest →
        referencesIn dialect place (words.toList ++ rest) = referencesIn dialect reached rest := by
    rw [List.all_eq_true] at members
    refine ⟨_, Place.foldl_next_ne_behind (fun c member isBlank => ?_) ahead, fun rest _ =>
      referencesIn_unquoted fun c member => quoteEnd?_of_class noQuotes (members c member)⟩
    rw [isBlank] at member
    rw [members ' ' member] at noBlank
    cases noBlank
  have quoted (content : String) : ∃ reached, reached ≠ .behind ∧ ∀ rest, Parts rest →
      referencesIn dialect place ((dialect.textLiteral content).toList ++ rest) =
        referencesIn dialect reached rest := by
    obtain ⟨inner, text_eq⟩ := dialect.toList_textLiteral content
    refine ⟨_, Place.afterQuoted_ne_behind ahead, fun rest parts => ?_⟩
    have read : referencesIn dialect place
        ('\'' :: (Text.doubleEach '\'' inner ++ '\'' :: rest)) =
          referencesIn dialect place.afterQuoted rest :=
      referencesIn_literal parts.ends.ne_quote
    simpa [text_eq] using read
  cases value with
  | null =>
      have letters : "NULL".toList.all Value.isNumeric = true := by decide
      exact unblank Value.isNumeric (by decide) (by decide) letters
  | bool truth =>
      have letters : (dialect.truthLiteral truth).toList.all Value.isNumeric = true := by
        unfold Dialect.truthLiteral
        split <;> decide
      exact unblank Value.isNumeric (by decide) (by decide) letters
  | int number =>
      exact unblank Value.isNumeric (by decide) (by decide) (Value.isNumeric_toString_int number)
  | float content => exact unblank Value.isNumeric (by decide) (by decide) legible
  | decimal content => exact unblank Value.isNumeric (by decide) (by decide) legible
  | _ => exact quoted _

/-- What stands between brackets and what closes it. -/
theorem referencesIn_arguments {arguments : List Value}
    (legible : ∀ argument ∈ arguments, argument.isLegible = true) (ahead : place ≠ .behind) :
    referencesIn dialect place ((", ".intercalate (arguments.map dialect.literal)).toList ++
        ')' :: ' ' :: rest) = referencesIn dialect (.columns []) rest := by
  have closing {place : Place} (ahead : place ≠ .behind) :
      referencesIn dialect place (')' :: ' ' :: rest) =
        referencesIn dialect (.columns []) rest := by
    have words : ") ".toList.all isPlain = true := by decide
    have closed : ") ".toList.foldl Place.next place = .columns [] :=
      Place.next_mark_blank (by decide) ahead
    have read : referencesIn dialect place (") ".toList ++ rest) = _ := referencesIn_words words
    rw [closed] at read
    exact read
  induction arguments generalizing place with
  | nil => exact closing ahead
  | cons argument others ih =>
      obtain ⟨reached, stillAhead, read⟩ :=
        @referencesIn_value dialect place argument (legible argument (by simp)) ahead
      cases others with
      | nil =>
          have all := read (')' :: ' ' :: rest) (by simp [Parts])
          rw [closing stillAhead] at all
          simpa using all
      | cons next others =>
          have later : referencesIn dialect (.columns []) _ =
              referencesIn dialect (.columns []) rest :=
            ih (fun argument member => legible argument (by simp [member])) nofun
          have comma : ", ".toList.foldl Place.next reached = .columns [] :=
            Place.next_mark_blank (by decide) stillAhead
          have text_eq :
              (", ".intercalate ((argument :: next :: others).map dialect.literal)).toList =
                (dialect.literal argument).toList ++ (", ".toList ++
                (", ".intercalate ((next :: others).map dialect.literal)).toList) := by
            simp [String.intercalate_cons_cons]
          rw [text_eq, List.append_assoc, List.append_assoc, read _ (by simp [Parts]),
            referencesIn_words (by decide), comma, later]

/-- A function that is read from is no path of names. -/
theorem referencesIn_call {function : TableFunction} {call : String}
    (called : dialect.functionCall function = .ok call)
    (legible : ∀ argument ∈ function.arguments, argument.isLegible = true)
    (ahead : place ≠ .behind) :
    referencesIn dialect place (call.toList ++ ' ' :: rest) =
      referencesIn dialect (.columns []) rest := by
  unfold Dialect.functionCall at called
  split at called
  · rename_i named
    cases called
    have letters := Dialect.inFunctionName_of_isFunctionName named
    have unblank : ∀ c ∈ function.name.toList, c ≠ ' ' := by
      rintro c member rfl
      exact absurd (letters ' ' member) (by decide)
    have unquoted : ∀ c ∈ function.name.toList, quoteEnd? dialect c = none :=
      fun c member => quoteEnd?_of_class (by decide) (letters c member)
    have text_eq : (function.name ++ "(" ++
          ", ".intercalate (function.arguments.map dialect.literal) ++ ")").toList ++ ' ' :: rest =
        function.name.toList ++ ("(".toList ++
          ((", ".intercalate (function.arguments.map dialect.literal)).toList ++
            ')' :: ' ' :: rest)) := by
      simp
    rw [text_eq, referencesIn_unquoted unquoted, referencesIn_words (by decide),
      referencesIn_arguments legible]
    exact Place.next_ne_behind (by decide) (Place.foldl_next_ne_behind unblank ahead)
  · cases called

end Sql

end EntitySql
