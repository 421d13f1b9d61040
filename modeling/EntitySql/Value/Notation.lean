import EntitySql.Fault
import EntitySql.Number.Quantity
import EntitySql.Value.Display

/-!
# Spelled values

The notation of the values that are carried as the name of a kind and a text:
numbers, points in time and byte strings.  Reading brings the text of a number
to the one form under which that number is carried.
-/

namespace EntitySql.Value

def hexDigit? (c : Char) : Option Nat :=
  if c.isDigit then some (c.toNat - 48)
  else if 'a' ≤ c.toLower && c.toLower ≤ 'f' then some (c.toLower.toNat - 87)
  else none

def hexBytes? : List Char → Option (List UInt8)
  | [] => some []
  | [_] => none
  | high :: low :: rest => do
    let byte := UInt8.ofNat (16 * (← hexDigit? high) + (← hexDigit? low))
    return byte :: (← hexBytes? rest)

/-- The integer that a sign and digits spell, if there are not too many digits. -/
def integer? (content : String) : Option (Except Fault Int) :=
  let (negative, digits) := Text.splitSign content.toList
  (Text.digitsNumber? digits).map fun magnitude =>
    if Text.Numeral.longest < digits.length then .error (.tooManyDigits (some digits.length))
    else .ok (Text.signed negative magnitude)

def carried? (kind content : String) : Option Value :=
  if kind == "float" then some (float (binaryText content))
  else if kind == "decimal" then some (decimal (decimalText content))
  else if kind == "date" then (Day.read content.toList).map fun found => date found.1
  else if kind == "datetime" then
    (Calendar.readMoment content.toList).map fun (day, clock) => dateTime day clock
  else if kind == "time" then (Clock.read content.toList).map time
  else if kind == "bytes" then (hexBytes? content.toList).map bytes
  else none

/-- The value of some kind that a text spells. -/
def spelled? (kind content : String) : Option (Except Fault Value) :=
  if kind == "int" then (integer? content).map fun number => number.map int
  else (carried? kind content).map .ok

/-- The kind and the spelling of a value that is carried in this way. -/
def spelling? : Value → Option (String × String)
  | float content => some ("float", content)
  | decimal content => some ("decimal", content)
  | date day => some ("date", day.text)
  | dateTime day clock => some ("datetime", Calendar.momentText 'T' day clock)
  | time clock => some ("time", clock.text)
  | bytes content =>
    some ("bytes", String.join (content.map fun byte => hexadecimal 2 byte.toNat))
  | _ => none

end EntitySql.Value
