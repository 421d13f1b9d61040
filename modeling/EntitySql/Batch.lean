import EntitySql.Text.Numeral

/-!
# Batches of statements

A batch is split at the semicolons outside quoted regions.  A single quote,
a double quote or an opening bracket opens a region, and the next closing
character ends it.
-/

namespace EntitySql.Batch

/-- The character that closes a region, for the characters that open one. -/
def closingOf (c : Char) : Option Char :=
  if c == '\'' || c == '"' then some c
  else if c == '[' then some ']'
  else none

def prepend (c : Char) : List (List Char) → List (List Char)
  | [] => [[c]]
  | piece :: rest => (c :: piece) :: rest

/-- The pieces between the semicolons outside regions, where `closing` is
the character that ends the region being read. -/
def pieces (closing : Option Char) : List Char → List (List Char)
  | [] => [[]]
  | c :: rest =>
    match closing with
    | some mark => prepend c (pieces (if c == mark then none else closing) rest)
    | none =>
      if c == ';' then [] :: pieces none rest
      else prepend c (pieces (closingOf c) rest)

/-- The statements of a batch, trimmed, without the blank ones. -/
def split (sql : String) : List String :=
  (((pieces none sql.toList).map Text.trimBlanks).filter (!·.isEmpty)).map String.ofList

end EntitySql.Batch
