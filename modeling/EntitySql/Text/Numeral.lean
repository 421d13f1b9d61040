import EntitySql.Text.CharacterClasses

/-!
# Numerals

Integers read from texts.  A plain numeral is a minus sign or none and digits
without zeros in front.  What people write besides is first brought to that
form: blanks around the number, a plus sign, zeros in front of the digits,
single underscores between digits and zeros after a point are dropped.
-/

namespace EntitySql.Text

def trimBlanks (characters : List Char) : List Char :=
  ((characters.dropWhile isBlank).reverse.dropWhile isBlank).reverse

/-- The number that a run of ASCII digits spells. -/
def digitsNumber? (characters : List Char) : Option Nat :=
  if characters.isEmpty || !characters.all Char.isDigit then none
  else some (characters.foldl (fun number c => 10 * number + (c.toNat - 48)) 0)

def splitSign : List Char → Bool × List Char
  | '-' :: rest => (true, rest)
  | '+' :: rest => (false, rest)
  | characters => (false, characters)

def splitMinus : List Char → Bool × List Char
  | '-' :: rest => (true, rest)
  | characters => (false, characters)

def signed (negative : Bool) (magnitude : Nat) : Int :=
  if negative then -(magnitude : Int) else magnitude

/-- What reading a numeral gives. -/
inductive Numeral where
  | number (value : Int)
  | tooLong
  | malformed
  deriving DecidableEq, Repr

namespace Numeral

/-- The most digits that a numeral may have. -/
def longest : Nat := 4300

/-- Reads a plain numeral.  Too long a run of digits is reported whatever follows it. -/
def ofPlain (characters : List Char) : Numeral :=
  let (negative, unsigned) := splitMinus characters
  let digits := unsigned.takeWhile Char.isDigit
  match digits with
  | [] => malformed
  | '0' :: _ => if unsigned.length = 1 then number 0 else malformed
  | _ =>
    if longest < digits.length then tooLong
    else if digits.length = unsigned.length then
      ((digitsNumber? digits).map fun magnitude => number (signed negative magnitude)).getD
        malformed
    else malformed

/-- Strips the blanks that may stand around a numeral; the four separators of
information are not among them. -/
def trimMargin (characters : List Char) : List Char :=
  let isMargin := fun c => isBlank c && !(28 ≤ c.toNat && c.toNat ≤ 31)
  ((characters.dropWhile isMargin).reverse.dropWhile isMargin).reverse

/-- Drops a plus sign, unless a minus sign follows it. -/
def dropPlus : List Char → List Char
  | '+' :: '-' :: rest => '+' :: '-' :: rest
  | '+' :: rest => rest
  | characters => characters

/-- A character with which a numeral without zeros in front begins. -/
def startsPlain (c : Char) : Bool := c == '-' || (c.isDigit && c != '0')

/-- What follows zeros and underscores; `last` is the character before. -/
def afterZeros (last : Char) : List Char → Option (List Char)
  | [] => some [last]
  | c :: rest =>
    if c == '0' || c == '_' then afterZeros c rest
    else if startsPlain c then some (c :: rest)
    else if c == '.' then some (last :: c :: rest)
    else none

/-- Drops the zeros in front of a number, but not the last one before its end or its point. -/
def dropZeros : List Char → Option (List Char)
  | [] => none
  | c :: rest =>
    if c == '0' then afterZeros c rest
    else if startsPlain c then some (c :: rest)
    else none

/-- Drops a point with nothing but zeros after it. -/
def dropFraction (characters : List Char) : List Char :=
  match characters.dropWhile (· != '.') with
  | _ :: zero :: zeros =>
    if (zero :: zeros).all (· == '0') then characters.takeWhile (· != '.') else characters
  | _ => characters

def hasDoubleUnderscore : List Char → Bool
  | '_' :: '_' :: _ => true
  | _ :: rest => hasDoubleUnderscore rest
  | [] => false

/-- Drops the underscores, if they stand one by one and inside the text. -/
def dropUnderscores (characters : List Char) : List Char :=
  if characters.head? == some '_' || characters.getLast? == some '_' ||
      hasDoubleUnderscore characters then characters
  else characters.filter (· != '_')

/-- Brings a numeral to its plain form, the minus sign apart. -/
def plainForm? (characters : List Char) : Option (List Char) :=
  let (negative, unsigned) := splitMinus (dropPlus (trimMargin characters))
  (dropZeros unsigned).map fun digits =>
    (if negative then ['-'] else []) ++ dropUnderscores (dropFraction digits)

/-- Reads an integer from a text.  Too many digits are reported as such only
where the text itself is a plain numeral. -/
def ofText (content : String) : Numeral :=
  match ofPlain content.toList with
  | malformed =>
    match (plainForm? content.toList).map ofPlain with
    | some (number value) => number value
    | _ => malformed
  | found => found

end Numeral

end EntitySql.Text
