import EntitySql.Text.Numeral

/-!
# Numbers in digits

A number as it is written: a sign, the digits read as one natural number, and
the power of ten that scales them.  Trailing zeros count, so one number may
be written in several ways.
-/

namespace EntitySql

/-- A written number: `digits × 10 ^ exponent` with a sign. -/
structure Scientific where
  negative : Bool := false
  digits : Nat
  exponent : Int := 0
  deriving DecidableEq, Repr

namespace Scientific

open Text

def ofText? (content : String) : Option Scientific := do
  let (negative, unsigned) := splitSign content.toList
  let isMark := fun c => c == 'e' || c == 'E'
  let mantissa := unsigned.takeWhile fun c => !isMark c
  let whole := mantissa.takeWhile (· != '.')
  let fraction := (mantissa.dropWhile (· != '.')).drop 1
  let digits ← digitsNumber? (whole ++ fraction)
  let scale : Int ←
    match unsigned.dropWhile fun c => !isMark c with
    | [] => some 0
    | _ :: written =>
      let (down, magnitude) := splitSign written
      (digitsNumber? magnitude).map (signed down)
  return { negative, digits, exponent := scale - fraction.length }

/-- The digits from the first that is not zero; zero itself has one digit. -/
def digitChars (number : Scientific) : List Char := Nat.toDigits 10 number.digits

/-- The power of ten just above the number: how many digits stand before the point. -/
def magnitude (number : Scientific) : Int := number.exponent + number.digitChars.length

def zeros (count : Int) : List Char := List.replicate count.toNat '0'

/-- Digits with a point after the first `places` of them.  Zeros fill what
the digits do not reach, and no point stands at the end. -/
def pointed (digits : List Char) (places : Int) : List Char :=
  if places ≤ 0 then '0' :: '.' :: (zeros (-places) ++ digits)
  else if digits.length ≤ places then digits ++ zeros (places - digits.length)
  else digits.take places.toNat ++ '.' :: digits.drop places.toNat

def writtenExponent (width : Nat) (exponent : Int) : List Char :=
  let digits := Nat.toDigits 10 exponent.natAbs
  (if exponent < 0 then '-' else '+') :: (List.replicate (width - digits.length) '0' ++ digits)

def withSign (negative : Bool) (characters : List Char) : String :=
  String.ofList (if negative then '-' :: characters else characters)

/-- The text that keeps every digit: positional as long as no zeros have to
be filled in before the point and at most five after it, and with one digit
before the point and an exponent otherwise. -/
def exactText (number : Scientific) : String :=
  withSign number.negative
    (if number.exponent ≤ 0 && -6 < number.magnitude then
      pointed number.digitChars number.magnitude
    else
      pointed number.digitChars 1 ++ 'E' :: writtenExponent 1 (number.magnitude - 1))

/-- The text of a binary number whose shortest digits these are: positional
up to sixteen digits before the point and four zeros after it, always with a
fraction there, and with an exponent of at least two digits otherwise. -/
def shortText (number : Scientific) : String :=
  withSign number.negative
    (if -4 < number.magnitude && number.magnitude ≤ 16 then
      let written := pointed number.digitChars number.magnitude
      if written.contains '.' then written else written ++ ['.', '0']
    else
      pointed number.digitChars 1 ++ 'e' :: writtenExponent 2 (number.magnitude - 1))

end Scientific

end EntitySql
