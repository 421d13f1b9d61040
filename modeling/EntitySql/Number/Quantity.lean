import EntitySql.Number.Binary

/-!
# Quantities

The exact number that a value stands for, in a form that does not depend on
how it was written, so that equal numbers have equal forms.
-/

namespace EntitySql

/-- A number `core × 2 ^ twos × 5 ^ fives` with a sign.  Neither two nor five
divides the core, and zero has the form with nothing but zeros. -/
structure Exact where
  negative : Bool
  core : Nat
  twos : Int
  fives : Int
  deriving DecidableEq, Repr

/-- What remains of a number without a factor, and how often the factor
went into it, at most `limit` times. -/
def withoutFactor (factor number : Nat) : Nat → Nat × Nat
  | 0 => (number, 0)
  | limit + 1 =>
    if number % factor = 0 then
      let (rest, count) := withoutFactor factor (number / factor) limit
      (rest, count + 1)
    else (number, 0)

namespace Exact

/-- The form of `number × 2 ^ twos × 5 ^ fives`. -/
def of (negative : Bool) (number : Nat) (twos fives : Int) : Exact :=
  if number = 0 then ⟨false, 0, 0, 0⟩
  else
    let limit := Nat.log2 number + 1
    let (odd, halvings) := withoutFactor 2 number limit
    let (core, fifths) := withoutFactor 5 odd limit
    ⟨negative, core, twos + halvings, fives + fifths⟩

def ofInt (number : Int) : Exact := of (decide (number < 0)) number.natAbs 0 0

def toInt? (number : Exact) : Option Int :=
  if 0 ≤ number.twos && 0 ≤ number.fives then
    some (Text.signed number.negative
      (number.core * Nat.pow 2 number.twos.toNat * Nat.pow 5 number.fives.toNat))
  else none

end Exact

/-- A number, an infinity, or nothing that could be compared. -/
inductive Quantity where
  | finite (number : Exact)
  | infinite (negative : Bool)
  | undefined
  deriving DecidableEq, Repr

namespace Quantity

/-- The quantity of a text that is no number in digits: an infinity or undefined. -/
def ofName (content : String) : Quantity :=
  let (negative, name) := Text.splitSign content.toList
  if ["inf", "Infinity"].contains (String.ofList name) then infinite negative else undefined

/-- The quantity that a text stands for digit by digit. -/
def ofDecimal (content : String) : Quantity :=
  match Scientific.ofText? content with
  | some written =>
    finite (.of written.negative written.digits written.exponent written.exponent)
  | none => ofName content

def ofBinary (content : String) : Quantity :=
  match Scientific.ofText? content with
  | some written =>
    match Binary.ofScientific written with
    | some number => finite (.of written.negative number.significand number.exponent 0)
    | none => infinite written.negative
  | none => ofName content

def toInt? : Quantity → Option Int
  | finite number => number.toInt?
  | _ => none

end Quantity

/-- The text under which a decimal number is carried: every digit is kept,
and what is no number stays as it is. -/
def decimalText (content : String) : String :=
  (Scientific.ofText? content).elim content Scientific.exactText

/-- The text under which a binary number is carried: its fewest digits. -/
def binaryText (content : String) : String :=
  match Scientific.ofText? content with
  | none => content
  | some written =>
    match Binary.ofScientific written with
    | some number => { number.shortest with negative := written.negative }.shortText
    | none => if written.negative then "-inf" else "inf"

end EntitySql
