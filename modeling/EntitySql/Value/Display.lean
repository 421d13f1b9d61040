import EntitySql.Value
import EntitySql.Text.CharacterClasses

/-!
# Displayed values

The text of a value inside a message, where every value shows its kind (a
text is quoted, a byte string marked), and its plain text, which drops the
quotes and the kind.
-/

namespace EntitySql.Value

def hexadecimal (width number : Nat) : String :=
  let digits := Nat.toDigits 16 number
  String.ofList (List.replicate (width - digits.length) '0' ++ digits)

/-- The quotation mark for a content: single, unless only single quotes occur in it. -/
def quotationMark (hasSingle hasDouble : Bool) : Char :=
  if hasSingle && !hasDouble then '"' else '\''

def displayChar (mark c : Char) : String :=
  if c == mark || c == '\\' then String.ofList ['\\', c]
  else if c == '\n' then "\\n"
  else if c == '\r' then "\\r"
  else if c == '\t' then "\\t"
  else if Text.isPrintable c then String.singleton c
  else if c.toNat < 0x100 then "\\x" ++ hexadecimal 2 c.toNat
  else if c.toNat < 0x10000 then "\\u" ++ hexadecimal 4 c.toNat
  else "\\U" ++ hexadecimal 8 c.toNat

/-- A text in quotation marks, with what cannot be shown escaped. -/
def displayText (content : String) : String :=
  let characters := content.toList
  let mark := quotationMark (characters.contains '\'') (characters.contains '"')
  String.singleton mark ++ String.join (characters.map (displayChar mark)) ++
    String.singleton mark

/-- A byte string in quotation marks; only visible ASCII characters show as themselves. -/
def displayBytes (content : List UInt8) : String :=
  let characters := content.map fun byte => Char.ofNat byte.toNat
  let mark := quotationMark (characters.contains '\'') (characters.contains '"')
  let shown := characters.map fun c =>
    if 127 ≤ c.toNat then "\\x" ++ hexadecimal 2 c.toNat else displayChar mark c
  "b" ++ String.singleton mark ++ String.join shown ++ String.singleton mark

/-- A duration as the call that makes it, in whole days and what is beyond
them; parts that are zero are left out. -/
def displayDuration (microseconds : Int) : String :=
  let seconds := microseconds / 1000000
  let parts :=
    [("days", seconds / 86400), ("seconds", seconds % 86400),
      ("microseconds", microseconds % 1000000)].filter (·.2 != 0)
  "datetime.timedelta(" ++
    ", ".intercalate (parts.map fun part => part.1 ++ "=" ++ toString part.2) ++ ")"

def displayOffset (microseconds : Int) : String :=
  if microseconds = 0 then "datetime.timezone.utc"
  else "datetime.timezone(" ++ displayDuration microseconds ++ ")"

def dayArguments (day : Day) : List String := [day.year, day.month, day.day].map toString

/-- The arguments that make a time of day: seconds and microseconds only as
far as they are not zero. -/
def clockArguments (clock : Clock) : List String :=
  let fine :=
    if clock.microsecond ≠ 0 then [clock.second, clock.microsecond]
    else if clock.second ≠ 0 then [clock.second]
    else []
  ([clock.hour, clock.minute] ++ fine).map toString ++
    (clock.offset.toList.map fun offset => "tzinfo=" ++ displayOffset offset)

def displayMoment (kind : String) (arguments : List String) : String :=
  "datetime." ++ kind ++ "(" ++ ", ".intercalate arguments ++ ")"

mutual

/-- The text of a value inside a message. -/
def display : Value → String
  | null => "None"
  | bool true => "True"
  | bool false => "False"
  | int number => toString number
  | float content => content
  | decimal content => "Decimal(" ++ displayText content ++ ")"
  | date day => displayMoment "date" (dayArguments day)
  | dateTime day clock => displayMoment "datetime" (dayArguments day ++ clockArguments clock)
  | time clock => displayMoment "time" (clockArguments clock)
  | text content => displayText content
  | bytes content => displayBytes content
  | list items => "[" ++ ", ".intercalate (displayAll items) ++ "]"
  | tuple items => displayTuple (displayAll items)
  | dict entries => "\x7b" ++ ", ".intercalate (displayEntries entries) ++ "\x7d"
  | entity typeName _ members =>
    typeName ++ "(" ++ ", ".intercalate (displayMembers members) ++ ")"
where
  /-- A tuple with one item keeps its comma. -/
  displayTuple : List String → String
    | [item] => "(" ++ item ++ ",)"
    | items => "(" ++ ", ".intercalate items ++ ")"

def displayAll : List Value → List String
  | [] => []
  | item :: rest => display item :: displayAll rest

def displayEntries : List (Value × Value) → List String
  | [] => []
  | (key, value) :: rest => (display key ++ ": " ++ display value) :: displayEntries rest

def displayMembers : List (String × Value) → List String
  | [] => []
  | (member, value) :: rest => (member ++ "=" ++ display value) :: displayMembers rest

end

/-- The text of a value on its own: a text is itself, and a point in time is
written with a blank between day and clock. -/
def plainText : Value → String
  | text content => content
  | decimal content => content
  | date day => day.text
  | time clock => clock.text
  | dateTime day clock => Calendar.momentText ' ' day clock
  | value => value.display

end EntitySql.Value
