import EntitySql.Text.Numeral

/-!
# Days and times of day

Days of the calendar and times of day, the latter with or without an offset
from universal time.  Both are written and read in the notation
`2020-01-31` and `10:20:30.000004+01:00`.
-/

namespace EntitySql

structure Day where
  year : Nat
  month : Nat
  day : Nat
  deriving DecidableEq, Repr, Inhabited

/-- A time of day and, if it is known, its offset from universal time in microseconds. -/
structure Clock where
  hour : Nat := 0
  minute : Nat := 0
  second : Nat := 0
  microsecond : Nat := 0
  offset : Option Int := none
  deriving DecidableEq, Repr, Inhabited

namespace Calendar

open Text

def padded (width number : Nat) : String :=
  let digits := Nat.toDigits 10 number
  String.ofList (List.replicate (width - digits.length) '0' ++ digits)

def readDigits (width : Nat) (characters : List Char) : Option (Nat × List Char) := do
  if characters.length < width then none
  else return (← digitsNumber? (characters.take width), characters.drop width)

/-- Reads the fraction of a second as microseconds; digits beyond the sixth are dropped. -/
def readFraction : List Char → Nat × List Char
  | '.' :: rest =>
    let digits := rest.takeWhile Char.isDigit
    let kept := (digits ++ List.replicate 6 '0').take 6
    ((digitsNumber? kept).getD 0, rest.drop digits.length)
  | characters => (0, characters)

/-- Reads hours and minutes, and seconds if there are any. -/
def readClock (characters : List Char) : Option (Clock × List Char) := do
  let (hour, rest) ← readDigits 2 characters
  match rest with
  | ':' :: rest =>
    let (minute, rest) ← readDigits 2 rest
    match rest with
    | ':' :: rest =>
      let (second, rest) ← readDigits 2 rest
      let (microsecond, rest) := readFraction rest
      return ({ hour, minute, second, microsecond }, rest)
    | _ => return ({ hour, minute }, rest)
  | _ => none

end Calendar

namespace Day

open Calendar

def text (day : Day) : String :=
  padded 4 day.year ++ "-" ++ padded 2 day.month ++ "-" ++ padded 2 day.day

def read (characters : List Char) : Option (Day × List Char) := do
  match ← readDigits 4 characters with
  | (year, '-' :: rest) =>
    match ← readDigits 2 rest with
    | (month, '-' :: rest) =>
      let (day, rest) ← readDigits 2 rest
      return ({ year, month, day }, rest)
    | _ => none
  | _ => none

/-- The days of a year before each of its months, in years without a leap day. -/
def beforeMonth : List Nat := [0, 31, 59, 90, 120, 151, 181, 212, 243, 273, 304, 334]

def isLeapYear (year : Nat) : Bool := year % 4 = 0 && (year % 100 ≠ 0 || year % 400 = 0)

def number (day : Day) : Nat :=
  let past := day.year - 1
  let leapDays := past / 4 + past / 400 - past / 100
  let leapDay := if isLeapYear day.year && 2 < day.month then 1 else 0
  365 * past + leapDays + beforeMonth.getD (day.month - 1) 0 + leapDay + (day.day - 1)

end Day

namespace Clock

open Calendar

def seconds (clock : Clock) : Nat := 3600 * clock.hour + 60 * clock.minute + clock.second

def microseconds (clock : Clock) : Nat := 1000000 * clock.seconds + clock.microsecond

def fractionText (microsecond : Nat) : String :=
  if microsecond = 0 then "" else "." ++ padded 6 microsecond

/-- The text of an offset: seconds are shown only where there are any. -/
def offsetText (offset : Int) : String :=
  let total := offset.natAbs / 1000000
  let microsecond := offset.natAbs % 1000000
  let fine :=
    if total % 60 = 0 && microsecond = 0 then ""
    else ":" ++ padded 2 (total % 60) ++ fractionText microsecond
  (if offset < 0 then "-" else "+") ++ padded 2 (total / 3600) ++ ":" ++
    padded 2 (total / 60 % 60) ++ fine

def text (clock : Clock) : String :=
  padded 2 clock.hour ++ ":" ++ padded 2 clock.minute ++ ":" ++ padded 2 clock.second ++
    fractionText clock.microsecond ++ (clock.offset.map offsetText).getD ""

/-- The microseconds of an offset; one of less than a second is none. -/
def offsetOf (clock : Clock) : Int := if clock.seconds = 0 then 0 else clock.microseconds

/-- Reads an offset, which has to be the rest of the text. -/
def readOffset (characters : List Char) : Option (Option Int) :=
  match characters with
  | [] => some none
  | ['Z'] => some (some 0)
  | sign :: rest =>
    match readClock rest with
    | some (clock, []) =>
      if sign == '+' then some (some (offsetOf clock))
      else if sign == '-' then some (some (-offsetOf clock))
      else none
    | _ => none

def read (characters : List Char) : Option Clock := do
  let (clock, rest) ← readClock characters
  return { clock with offset := ← readOffset rest }

/-- Whether two times of day are the same.  Where both know their offset
they are compared as seconds of universal time. -/
def same (first second : Clock) : Bool :=
  match first.offset, second.offset with
  | some offset, some other =>
    first.microsecond = second.microsecond && offset % 1000000 = other % 1000000 &&
      (first.seconds : Int) - offset / 1000000 = second.seconds - other / 1000000
  | none, none => first = second
  | _, _ => false

end Clock

namespace Calendar

def momentText (separator : Char) (day : Day) (clock : Clock) : String :=
  day.text ++ String.singleton separator ++ clock.text

/-- Reads a point in time; any character may stand between day and time of
day, and without the latter it is midnight. -/
def readMoment (characters : List Char) : Option (Day × Clock) := do
  match ← Day.read characters with
  | (day, []) => return (day, {})
  | (day, _ :: rest) => return (day, ← Clock.read rest)

/-- The microseconds since the first day began, without regard to the offset. -/
def elapsed (day : Day) (clock : Clock) : Int :=
  86400000000 * (day.number : Int) + clock.microseconds

/-- Whether two points in time are the same.  Where both know their offset
they are compared in universal time. -/
def sameMoment (first : Day × Clock) (second : Day × Clock) : Bool :=
  match first.2.offset, second.2.offset with
  | some offset, some other =>
    elapsed first.1 first.2 - offset = elapsed second.1 second.2 - other
  | none, none => first = second
  | _, _ => false

end Calendar

end EntitySql
