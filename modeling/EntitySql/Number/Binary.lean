import EntitySql.Number.Scientific

/-!
# Binary numbers

The numbers with a binary fraction that are kept in 64 bits: a significand of
at most 53 bits and a power of two.  A number written in decimal digits stands for
the nearest of them, and each of them is written with the fewest digits that
stand for it.
-/

namespace EntitySql

/-- A quotient rounded to the nearest whole number, a tie to the even one. -/
def roundedQuotient (numerator denominator : Nat) : Nat :=
  let quotient := numerator / denominator
  let rest := 2 * (numerator % denominator)
  if rest < denominator || (rest == denominator && quotient % 2 == 0) then quotient
  else quotient + 1

/-- A number without sign: `significand × 2 ^ exponent`. -/
structure Binary where
  significand : Nat
  exponent : Int
  deriving DecidableEq, Repr

namespace Binary

/-- The smallest exponent that is kept. -/
def leastExponent : Int := -1074

/-- A fraction `numerator / denominator` scaled by a power of a base. -/
def scaled (base : Nat) (numerator denominator : Nat) (exponent : Int) : Nat × Nat :=
  if 0 ≤ exponent then (numerator * Nat.pow base exponent.toNat, denominator)
  else (numerator, denominator * Nat.pow base (-exponent).toNat)

/-- The exponent at which a fraction has a significand of 53 bits, or the
smallest one if it is too small for that. -/
def exponentFor (numerator denominator : Nat) : Int :=
  let estimate : Int := (Nat.log2 numerator : Int) - Nat.log2 denominator - 52
  let (above, below) := scaled 2 numerator denominator (-estimate)
  max leastExponent (if above < Nat.pow 2 52 * below then estimate - 1 else estimate)

def nearest (numerator denominator : Nat) : Binary :=
  if numerator = 0 then ⟨0, leastExponent⟩
  else
    let exponent := exponentFor numerator denominator
    let (above, below) := scaled 2 numerator denominator (-exponent)
    let significand := roundedQuotient above below
    if significand = Nat.pow 2 53 then ⟨Nat.pow 2 52, exponent + 1⟩ else ⟨significand, exponent⟩

/-- Whether the number is kept; what is larger counts as infinite. -/
def isKept (number : Binary) : Bool := number.exponent ≤ 971

/-- The nearest number to a written one.  Beyond four hundred digits before
or after the point there is nothing but infinity and zero. -/
def ofScientific (written : Scientific) : Option Binary :=
  if written.digits = 0 || written.magnitude < -400 then some ⟨0, leastExponent⟩
  else if 400 < written.magnitude then none
  else
    let (above, below) := scaled 10 written.digits 1 written.exponent
    let number := nearest above below
    if number.isKept then some number else none

def fraction (number : Binary) : Nat × Nat := scaled 2 number.significand 1 number.exponent

/-- The two multiples of a power of ten around a fraction, the nearer one first. -/
def neighbours (above below : Nat) (exponent : Int) : List Scientific :=
  let (numerator, denominator) := scaled 10 above below (-exponent)
  let lower := numerator / denominator
  let near := roundedQuotient numerator denominator
  [near, if near = lower then lower + 1 else lower].map fun digits => { digits, exponent }

/-- The first power of ten, going down from `exponent`, one of whose
multiples stands for the number, and that multiple. -/
def shortestFrom (number : Binary) (exponent : Int) : Nat → Option Scientific
  | 0 => none
  | limit + 1 =>
    let (above, below) := number.fraction
    match (neighbours above below exponent).find? fun candidate =>
      candidate.digits ≠ 0 && ofScientific candidate = some number with
    | some found => some found
    | none => shortestFrom number (exponent - 1) limit

def trimZeros (written : Scientific) : Nat → Scientific
  | 0 => written
  | limit + 1 =>
    if written.digits ≠ 0 && written.digits % 10 = 0 then
      trimZeros { written with digits := written.digits / 10, exponent := written.exponent + 1 } limit
    else written

/-- The fewest digits that stand for the number.  Seventeen digits are
always enough; the search starts above the largest of them. -/
def shortest (number : Binary) : Scientific :=
  if number.significand = 0 then { digits := 0 }
  else
    let (above, below) := number.fraction
    let highest : Int :=
      ((Nat.toDigits 10 above).length : Int) - (Nat.toDigits 10 below).length + 1
    let found := (shortestFrom number highest 20).getD { digits := 0 }
    trimZeros found (Nat.toDigits 10 found.digits).length

end Binary

end EntitySql
