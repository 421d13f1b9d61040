import EntitySql.Dialect.Mutation

/-!
# Names that may be anything

Callers may leave a name out, and the dictionary grammar takes any value for
the name of a member.  What is left out stays left out, or is written like
the null value inside a statement.  Values that are no texts are refused as
soon as something is asked of them that only texts can do; one way around
this is the snake-case folding of a collection with one item.
-/

namespace EntitySql

namespace Text

/-- Whether a text has capital letters and no other letters with case. -/
def isUppercaseText (content : String) : Bool :=
  content.toList.any isUppercase &&
    content.toList.all fun c => isUppercase c || !(isLowercase c || isCased c)

def isBlankText (content : String) : Bool :=
  !content.isEmpty && content.toList.all isBlank

end Text

namespace Dialect

/-- The snake-case form of one item of a collection, taken like a character. -/
def foldItem (item : Value) : Except Fault String :=
  match item with
  | .text content =>
    if Text.isUppercaseText content then .ok (Text.lowercase content)
    else if Text.isBlankText content || ["", "-", ".", "-."].contains content then .ok "_"
    else .ok content
  | .bytes content =>
    if !content.isEmpty && content.all fun byte => (9 ≤ byte && byte ≤ 13) || byte == 32 then
      .ok "_"
    else .error (.misfit (.notName item))
  | other => .error (.lacking (.notTextual other))

def itemCount? : Value → Option Nat
  | .list items => some items.length
  | .tuple items => some items.length
  | .dict entries => some entries.length
  | .bytes content => some content.length
  | _ => none

/-- Folds and quotes a value that is no text: what is empty passes, and a
collection with one item may stand for that item where folding goes through
it. -/
def identifierOfOther (dialect : Dialect) (name : Value) : Except Fault Value :=
  if !name.isGiven then .ok name
  else
    match itemCount? name, dialect.folding, name.elements with
    | none, _, _ => .error (.misfit (.notName name))
    | some 1, .lowerSnake, some [item] =>
      (foldItem item).map fun folded => .text (dialect.delimiters.enclose folded)
    | some _, _, _ =>
      match name with
      | .bytes _ => .error (.misfit (.notName name))
      | other => .error (.lacking (.notTextual other))

def identifierOf (dialect : Dialect) (name : Value) : Except Fault Value :=
  match name with
  | .text content => .ok (.text (dialect.identifier content))
  | other => dialect.identifierOfOther other

def tableOf (dialect : Dialect) (name : Value) : Except Fault Value :=
  match name with
  | .text content => .ok (.text (dialect.tableText content))
  | other => if other.isGiven then .error (.lacking (.notTextual other)) else .ok other

def foldOf (dialect : Dialect) (name : Value) : Except Fault Value :=
  match name, dialect.folding with
  | .text content, _ => .ok (.text (dialect.fold content))
  | other, .keep => .ok other
  | other, .lower => .error (.lacking (.notTextual other))
  | other, .lowerSnake => .error (.misfit (.notName other))

def isDelimitedOf (dialect : Dialect) (name : Value) : Except Fault Value :=
  match name with
  | .text content => .ok (.bool (dialect.isDelimited content))
  | other => .error (.misfit (.notName other))

def identityOf (dialect : Dialect) (table column : Value) : Except Fault String :=
  match dialect.backend, table, column with
  | .postgres _, .text table, .text column => .ok (dialect.identityExpression table column)
  | .postgres _, .text _, other =>
    (dialect.foldOf other).bind fun folded => .error (.lacking (.notTextual folded))
  | .postgres _, other, _ => .error (.lacking (.notTextual other))
  | _, _, _ => .ok (dialect.identityExpression "" "")

def shown (render : String → String) (name : Option String) : String :=
  name.elim Value.null.plainText render

def placeholderOf (dialect : Dialect) (parameter : Option String) : String :=
  dialect.placeholder (shown id parameter)

/-- Columns and the parameters bound to them, either of which may be left out. -/
abbrev LoosePairs := List (Option String × Option String)

def looseEquations (dialect : Dialect) (pairs : LoosePairs) : List String :=
  pairs.map fun pair => shown dialect.identifier pair.1 ++ " = " ++ dialect.placeholderOf pair.2

def insertOf (dialect : Dialect) (table : Option String)
    (columns parameters : List (Option String)) : Except Fault String :=
  if columns.any Option.isNone then .error (.misfit (.notName .null))
  else
    .ok (insertLine (shown dialect.tableText table) (columns.map (shown dialect.identifier))
      (parameters.map dialect.placeholderOf))

/-- The text of an UPDATE.  A row is read back only from a table with a name. -/
def updateOf (dialect : Dialect) (table : Option String) (assignments pairs : LoosePairs)
    (readsBack : Bool) (keys : LoosePairs) (condition : Option String) : Except Fault String :=
  let text :=
    updateLine (shown dialect.tableText table) (dialect.looseEquations assignments)
      (chosenCondition condition (" AND ".intercalate (dialect.looseEquations pairs)))
  if readsBack && !keys.isEmpty then
    match table with
    | some name =>
      let found := " AND ".intercalate (dialect.looseEquations keys)
      .ok (text ++ "; " ++ dialect.selectWhole name found)
    | none => .error (.invalid [.noSource])
  else .ok text

def deleteOf (dialect : Dialect) (table : Option String) (pairs : LoosePairs)
    (condition : Option String) : String :=
  deleteLine (shown dialect.tableText table)
    (chosenCondition condition (" AND ".intercalate (dialect.looseEquations pairs)))

end Dialect

end EntitySql
