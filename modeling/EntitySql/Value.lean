import EntitySql.Association
import EntitySql.Calendar

/-!
# Values

What a member of an entity holds, what a condition compares it with and what
a driver hands back.  Numbers that are not integers are carried as their
text; what they stand for matters only where they are keys or fill a field.
-/

namespace EntitySql

/-- A value that is bound to a parameter or read from a row. -/
inductive Value where
  | null
  | bool (truth : Bool)
  | int (number : Int)
  | float (text : String)
  | decimal (text : String)
  | date (day : Day)
  | dateTime (day : Day) (clock : Clock)
  | time (clock : Clock)
  | text (content : String)
  | bytes (content : List UInt8)
  | list (items : List Value)
  | tuple (items : List Value)
  | dict (entries : List (Value × Value))
  | entity (typeName : String) (enumerable : Bool) (members : List (String × Value))
  deriving Inhabited, Repr

namespace Value

def isNull : Value → Bool
  | null => true
  | _ => false

/-- Whether the text of a number shows a digit other than zero before any
exponent, or a name such as infinity. -/
def nonzeroText (content : String) : Bool :=
  let digits := content.toList.takeWhile fun c => c != 'e' && c != 'E'
  digits.any fun c => c != '0' && c != '.' && c != '-' && c != '+'

/-- Whether the value counts as given: nulls, zeros and empty texts and
collections do not. -/
def isGiven : Value → Bool
  | null => false
  | bool truth => truth
  | int number => number != 0
  | float content => nonzeroText content
  | decimal content => nonzeroText content
  | text content => !content.isEmpty
  | bytes content => !content.isEmpty
  | list items => !items.isEmpty
  | tuple items => !items.isEmpty
  | dict entries => !entries.isEmpty
  | _ => true

/-- What going through the value yields: the items of a collection, the
characters of a text, the numbers of a byte string, the keys of a dictionary,
the members of an enumerable entity. -/
def elements : Value → Option (List Value)
  | list items => some items
  | tuple items => some items
  | dict entries => some (entries.map (·.1))
  | text content => some (content.toList.map fun c => .text (String.singleton c))
  | bytes content => some (content.map fun byte => .int byte.toNat)
  | entity _ true members =>
    some (members.map fun member => .tuple [.text member.1, member.2])
  | _ => none

/-- The values that a membership test ranges over.  Texts and byte strings
can be gone through as well, but they are single values and not collections. -/
def collection : Value → Option (List Value)
  | text _ => none
  | bytes _ => none
  | value => value.elements

end Value

end EntitySql
