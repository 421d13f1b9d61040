import EntitySql.Dialect
import EntitySql.Fault
import EntitySql.Selection

/-!
# Literals and function calls

Values written into the text of a statement.  Only the arguments of a
table-valued function are; everything else is bound to a parameter.
-/

namespace EntitySql.Dialect

/-- Quotes a text as a literal.  Where placeholders start with a percent
sign, one that belongs to the text is written twice. -/
def textLiteral (dialect : Dialect) (content : String) : String :=
  let escaped := Text.doubled '\'' content
  "'" ++ (if dialect.style = .percent then Text.doubled '%' escaped else escaped) ++ "'"

/-- A value as a literal.  Integers of any length are written: the limit of
`Text.Numeral.longest` digits, that numerals are read with, is left out. -/
def literal (dialect : Dialect) (value : Value) : String :=
  match value with
  | .null => "NULL"
  | .bool truth => dialect.truthLiteral truth
  | .int number => toString number
  | .float content => content
  | .decimal content => content
  | .dateTime day clock => dialect.textLiteral (Calendar.momentText 'T' day clock)
  | other => dialect.textLiteral other.plainText

def startsName (c : Char) : Bool := c.isAlpha || c == '_'

def continuesName (c : Char) : Bool := c.isAlphanum || c == '_'

def isNamePart : List Char → Bool
  | [] => false
  | first :: rest => startsName first && rest.all continuesName

/-- Dotted names of plain identifiers.  A single line break at the very end
is let through with them. -/
def isFunctionName (name : String) : Bool :=
  let characters := name.toList
  let trimmed := if characters.getLast? == some '\n' then characters.dropLast else characters
  (trimmed.splitOn '.').all isNamePart

def functionCall (dialect : Dialect) (source : TableFunction) : Except Fault String :=
  if isFunctionName source.name then
    .ok (source.name ++ "(" ++ ", ".intercalate (source.arguments.map dialect.literal) ++ ")")
  else .error (.argument (.functionName source.name))

end EntitySql.Dialect
