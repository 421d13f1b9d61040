import EntitySql.Proofs.Sql.Condition
import EntitySql.Proofs.Text.Quotation

/-!
# Tokens of SQL

The text of a condition falls into quoted identifiers, placeholders, numbers,
keywords, comparisons and punctuation.  Blanks separate tokens.
-/

namespace EntitySql.Sql

/-- The words of conditions. -/
inductive Keyword where
  | and
  | or
  | not
  | is
  | null
  | among
  deriving DecidableEq, Repr

namespace Keyword

def all : List Keyword := [and, or, not, is, null, among]

def spelling : Keyword → String
  | and => "AND"
  | or => "OR"
  | not => "NOT"
  | is => "IS"
  | null => "NULL"
  | among => "IN"

def ofSpelling (spelling : String) : Option Keyword := all.find? (·.spelling == spelling)

end Keyword

inductive Token where
  | operand (operand : Operand)
  | keyword (keyword : Keyword)
  | comparator (op : Comparator)
  | opening
  | closing
  | comma
  deriving DecidableEq, Repr

/-! ## Reading one token -/

/-- Reads punctuation or a comparison. -/
def readSymbol : List Char → Option (Token × List Char)
  | '(' :: rest => some (.opening, rest)
  | ')' :: rest => some (.closing, rest)
  | ',' :: rest => some (.comma, rest)
  | '=' :: rest => some (.comparator .equal, rest)
  | '!' :: '=' :: rest => some (.comparator .notEqual, rest)
  | '<' :: '>' :: rest => some (.comparator .notEqual, rest)
  | '<' :: '=' :: rest => some (.comparator .lessOrEqual, rest)
  | '<' :: rest => some (.comparator .less, rest)
  | '>' :: '=' :: rest => some (.comparator .greaterOrEqual, rest)
  | '>' :: rest => some (.comparator .greater, rest)
  | _ => none

/-- What a word is: a number in digits, or a keyword in letters of any case. -/
def wordToken (word : List Char) : Option Token :=
  if word.all Char.isDigit then some (.operand (.number (Nat.ofDigitChars 10 word 0)))
  else (Keyword.ofSpelling (String.ofList (word.map Char.toUpper))).map .keyword

/-- What stands before the name of a parameter. -/
def leadOf : PlaceholderStyle → List Char
  | .atSign => ['@']
  | .percent => ['%', '(']
  | .colon => [':']

/-- What stands behind the name of a parameter. -/
def tailOf : PlaceholderStyle → List Char
  | .percent => [')', 's']
  | _ => []

/-- Reads a placeholder. -/
def readPlaceholder (style : PlaceholderStyle) (text : List Char) :
    Option (Token × List Char) := do
  let inner ← text.dropPrefix? (leadOf style)
  let name := inner.takeWhile Text.isWord
  let rest ← (inner.dropWhile Text.isWord).dropPrefix? (tailOf style)
  if name.isEmpty then none else some (.operand (.parameter (String.ofList name)), rest)

/-- Reads the first token of a text that does not start with a blank. -/
def readToken (dialect : Dialect) (text : List Char) : Option (Token × List Char) :=
  match text with
  | [] => none
  | c :: rest =>
    if c = dialect.delimiters.opening then
      (Text.unquoteAfter dialect.delimiters.closing rest).map fun read =>
        (.operand (.column (String.ofList read.1)), read.2)
    else if Text.isWord c then
      (wordToken (text.takeWhile Text.isWord)).map (·, text.dropWhile Text.isWord)
    else (readPlaceholder dialect.style text).or (readSymbol text)

variable {dialect : Dialect} {text rest : List Char} {token : Token} {c : Char}

theorem length_of_readSymbol (read : readSymbol text = some (token, rest)) :
    rest.length < text.length := by
  unfold readSymbol at read
  split at read
  all_goals cases read
  all_goals simp only [List.length_cons]
  all_goals omega

theorem length_of_readPlaceholder {style : PlaceholderStyle}
    (read : readPlaceholder style text = some (token, rest)) : rest.length < text.length := by
  simp only [readPlaceholder, Option.bind_eq_bind, Option.bind_eq_some_iff] at read
  obtain ⟨inner, led, left, tailed, named⟩ := read
  split at named
  · cases named
  · cases named
    rw [List.dropPrefix?_eq_some_iff] at led tailed
    obtain ⟨lead, rfl, lead_eq⟩ := led
    obtain ⟨tail, dropped, _⟩ := tailed
    have shorter := congrArg List.length dropped
    have dropping := (List.dropWhile_suffix (l := inner) Text.isWord).length_le
    have leading : 0 < lead.length := by
      rw [eq_of_beq lead_eq]
      cases style <;> simp [leadOf]
    simp at shorter ⊢
    omega

theorem length_of_readToken (read : readToken dialect text = some (token, rest)) :
    rest.length < text.length := by
  unfold readToken at read
  split at read
  · cases read
  · rename_i c later
    split at read
    · rw [Option.map_eq_some_iff] at read
      obtain ⟨⟨content, left⟩, unquoted, equal⟩ := read
      cases equal
      exact Nat.lt_succ_of_lt (Text.length_of_unquoteAfter unquoted)
    · split at read
      · rename_i isWord
        rw [Option.map_eq_some_iff] at read
        obtain ⟨_, _, equal⟩ := read
        cases equal
        rw [List.dropWhile_cons_of_pos isWord]
        exact Nat.lt_succ_of_le (List.dropWhile_suffix _).length_le
      · rcases Option.or_eq_some_iff.mp read with placeholder | ⟨_, symbol⟩
        · exact length_of_readPlaceholder placeholder
        · exact length_of_readSymbol symbol

/-! ## Reading a text -/

/-- The tokens of a text. -/
def tokens (dialect : Dialect) (text : List Char) : Option (List Token) :=
  match text with
  | [] => some []
  | c :: rest =>
    if Text.isBlank c then tokens dialect rest
    else
      match _read : readToken dialect (c :: rest) with
      | none => none
      | some (token, later) => (tokens dialect later).map (token :: ·)
termination_by text.length
decreasing_by
  · simp
  · exact length_of_readToken ‹_›

end EntitySql.Sql
