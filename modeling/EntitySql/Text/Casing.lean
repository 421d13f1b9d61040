import EntitySql.Text.CharacterClasses

/-!
# Small letters and snake case

The full small form of a text, in which a capital sigma at the end of a word
becomes the final sigma, and the snake-case form of a name, which also marks
the places where a capital letter starts a new word.
-/

namespace EntitySql.Text

/-- The small form of one character on its own.  Only the dotted capital I has two characters. -/
def smallForm (c : Char) : List Char :=
  if c.toNat < 128 then [c.toLower]
  else if c.toNat == 0x130 then ['i', '\u0307']
  else
    match shifted lowercaseShifts c.toNat with
    | some point => [Char.ofNat point]
    | none => [c]

/-- Whether a letter stands at the end of a word: a cased letter comes before
it and none after, casing-ignorable characters left aside.  The characters
before it are given from the nearest outward. -/
def endsWord (before after : List Char) : Bool :=
  (before.dropWhile isCaseIgnorable).head?.any isCased &&
    !(after.dropWhile isCaseIgnorable).head?.any isCased

/-- The small form of a text that follows the characters of `before`. -/
def lowercaseAfter (before : List Char) : List Char → List Char
  | [] => []
  | c :: rest =>
    (if c == 'Σ' then [if endsWord before rest then 'ς' else 'σ'] else smallForm c) ++
      lowercaseAfter (c :: before) rest

def lowercase (text : String) : String :=
  String.ofList (lowercaseAfter [] text.toList)

/-- The snake-case form of the rest of a name; `wordOpen` tells whether the
character before it was a small letter or a digit. -/
def snakeCaseAfter (wordOpen : Bool) : List Char → List Char
  | [] => []
  | c :: rest =>
    if isUppercase c then
      (if wordOpen then ['_'] else []) ++ smallForm c ++ snakeCaseAfter false rest
    else if isBlank c || c == '-' || c == '.' then
      '_' :: snakeCaseAfter false rest
    else
      c :: snakeCaseAfter (isLowercase c || isDigit c) rest

/-- Writes `CreateDateUTC` as `create_date_utc`: a capital letter after a
small letter or a digit opens a new word, and blanks, dashes and dots become
underscores. -/
def snakeCase (name : String) : String :=
  String.ofList (snakeCaseAfter false name.toList)

end EntitySql.Text
