/-!
# Quoted text

Text between an opening and a closing character, in which a closing
character that belongs to the content is written twice.
-/

namespace EntitySql.Text

/-- Writes every occurrence of `marker` twice. -/
def doubleEach (marker : Char) : List Char → List Char
  | [] => []
  | c :: rest =>
    if c = marker then marker :: marker :: doubleEach marker rest else c :: doubleEach marker rest

def doubled (marker : Char) (text : String) : String :=
  String.ofList (doubleEach marker text.toList)

/-- The characters that open and close a quoted identifier. -/
structure Delimiters where
  opening : Char
  closing : Char
  deriving DecidableEq, Repr

namespace Delimiters

def enclose (delimiters : Delimiters) (content : String) : String :=
  String.ofList
    (delimiters.opening :: (doubleEach delimiters.closing content.toList ++ [delimiters.closing]))

/-- A text counts as quoted when it starts and ends with the delimiters,
whatever stands between them. -/
def enclosed (delimiters : Delimiters) (text : String) : Bool :=
  2 ≤ text.toList.length && text.toList.head? == some delimiters.opening &&
    text.toList.getLast? == some delimiters.closing

end Delimiters

end EntitySql.Text
