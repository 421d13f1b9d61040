import EntitySql.Text.CharacterClasses

/-!
# Names of members

The names that a member of a closed type may have: words of letters, digits
and underscores that do not begin with a digit and have no meaning of their
own where members are used.
-/

namespace EntitySql.Text

/-- The words that cannot be names because they have another meaning. -/
def reservedWords : List String :=
  ["False", "None", "True", "and", "as", "assert", "async", "await", "break", "class", "continue",
    "def", "del", "elif", "else", "except", "finally", "for", "from", "global", "if", "import",
    "in", "is", "lambda", "nonlocal", "not", "or", "pass", "raise", "return", "try", "while",
    "with", "yield"]

def isMemberName (name : String) : Bool :=
  match name.toList with
  | [] => false
  | first :: rest => isNameStart first && rest.all isNamePart && !reservedWords.contains name

/-- The name that always has the same value and can be given no other. -/
def fixedName : String := "__debug__"

end EntitySql.Text
