import EntitySql.Form
import EntitySql.Number.Quantity

/-!
# Reading the values of fields

The records are validated field by field in the lenient mode, as the conversion
table documented for it says.

* A text is read from a text or from the bytes that encode one.
* A truth value is read from a truth value, from the numbers one and zero, and from
  `1`, `on`, `t`, `true`, `y`, `yes` and `0`, `off`, `f`, `false`, `n`, `no` in any case.
* An integer is read from an integer or a truth value, from a number without a fraction,
  and from a text or bytes that spell it in decimal digits.
* A list is read from a list or a tuple, item by item, and so is a tuple.
* A nested record is read from a dictionary, and nothing but null is read as null.

What is not in the table is an issue of the kind that the validation names for it.
-/

namespace EntitySql.Form

open Text

def decoded? (content : List UInt8) : Option String :=
  String.fromUTF8? (ByteArray.mk content.toArray)

def readText : Value → Checked String
  | .text content => .valid content
  | .bytes content =>
    match decoded? content with
    | some text => .valid text
    | none => .issue "string_unicode"
  | _ => .issue "string_type"

def readNullable {α : Type} (reader : Value → Checked α) : Value → Checked (Option α)
  | .null => .valid none
  | value => some <$> reader value

def spelledTruth (content : String) : Checked Bool :=
  let word := content.map Char.toLower
  if ["1", "on", "t", "true", "y", "yes"].contains word then .valid true
  else if ["0", "off", "f", "false", "n", "no"].contains word then .valid false
  else .issue "bool_parsing"

def fitsWord (number : Int) : Bool :=
  -9223372036854775808 ≤ number && number ≤ 9223372036854775807

def numberedTruth (number : Int) : Checked Bool :=
  if number = 1 then .valid true
  else if number = 0 then .valid false
  else .issue "bool_parsing"

/-- The truth value that a binary number stands for, if it is a whole number
strictly between the ends of 64 bits. -/
def binaryTruth (content : String) : Checked Bool :=
  match (Quantity.ofBinary content).toInt? with
  | some number =>
    if number.natAbs < 9223372036854775808 then numberedTruth number else .issue "bool_type"
  | none => .issue "bool_type"

def readBool : Value → Checked Bool
  | .bool truth => .valid truth
  | .int number => if fitsWord number then numberedTruth number else .issue "bool_type"
  | .text content => spelledTruth content
  | .bytes content =>
    match decoded? content with
    | some text => spelledTruth text
    | none => .issue "bool_parsing"
  | .float content => binaryTruth content
  | .decimal content => binaryTruth content
  | _ => .issue "bool_type"

def readSpelledInteger (content : String) : Checked Int :=
  match Numeral.ofText content with
  | .number value => .valid value
  | .tooLong => .issue "int_parsing_size"
  | .malformed => .issue "int_parsing"

def readQuantity : Quantity → Checked Int
  | .finite number =>
    match number.toInt? with
    | some value => .valid value
    | none => .issue "int_from_float"
  | _ => .issue "finite_number"

/-- Reads an integer from a binary number, which has to lie strictly between
the ends of 64 bits. -/
def readBinary (content : String) : Checked Int :=
  (readQuantity (.ofBinary content)).refine fun number =>
    if number.natAbs < 9223372036854775808 then .valid number else .issue "int_parsing_size"

def readInteger : Value → Checked Int
  | .int number => .valid number
  | .bool truth => .valid (if truth then 1 else 0)
  | .text content => readSpelledInteger content
  | .bytes content =>
    match decoded? content with
    | some text => readSpelledInteger text
    | none => .issue "int_parsing"
  | .float content => readBinary content
  | .decimal content => readQuantity (.ofDecimal content)
  | _ => .issue "int_type"

/-- Reads a count: an integer that is not negative. -/
def readCount (value : Value) : Checked Nat :=
  (readInteger value).refine fun number =>
    if 0 ≤ number then .valid number.toNat else .issue "greater_than_equal"

def readList {α : Type} (reader : Value → Checked α) : Value → Checked (List α)
  | .list items => .each reader 0 items
  | .tuple items => .each reader 0 items
  | _ => .issue "list_type"

def readSequence : Value → Checked (List Value)
  | .list items => .valid items
  | .tuple items => .valid items
  | _ => .issue "tuple_type"

def readForm {α : Type} (form : Fields → Checked α) : Value → Checked α
  | .dict entries => form entries
  | _ => .issue "model_type"

end EntitySql.Form
