import EntitySql.Text.CompositionTables
import EntitySql.Text.Spellings

/-!
# Composed texts

A letter with marks can be one character or several, the marks can come in
several orders, and some characters differ from others in their look alone.
The composed form of a text uses the preferred spelling of everything in it:
its characters are respelled and taken apart, the marks are ordered, and
everything is put together again.  Texts that differ in their spelling alone
have the same composed form.
-/

namespace EntitySql.Text

/-- The preferred spelling of a character. -/
def respelled (point : Nat) : List Nat :=
  match (respelledRuns.takeWhile (·.first ≤ point)).getLast? with
  | some run => (run.spellings[point - run.first]?).getD [point]
  | none => [point]

/-- The class of a mark; it is zero for characters that are no marks. -/
def markClass (point : Nat) : Nat :=
  match (markRuns.takeWhile (·.first ≤ point)).getLast? with
  | some run => if point ≤ run.last then run.markClass else 0
  | none => 0

/-- The syllable that two of its parts compose to: a leading consonant and a
vowel, or a syllable that is still open and a final consonant. -/
def composedSyllable? (first second : Nat) : Option Nat :=
  if 0x1100 ≤ first && first < 0x1113 && 0x1161 ≤ second && second < 0x1176 then
    some (0xAC00 + 588 * (first - 0x1100) + 28 * (second - 0x1161))
  else if 0xAC00 ≤ first && first < 0xD7A4 && (first - 0xAC00) % 28 = 0 &&
      0x11A8 ≤ second && second < 0x11C3 then
    some (first + (second - 0x11A7))
  else none

def syllableParts? (point : Nat) : Option (Nat × Nat) :=
  if 0xAC00 ≤ point && point < 0xD7A4 then
    let number := point - 0xAC00
    if number % 28 = 0 then some (0x1100 + number / 588, 0x1161 + number % 588 / 28)
    else some (point - number % 28, 0x11A7 + number % 28)
  else none

def composedPair? (first second : Nat) : Option Nat :=
  (composedSyllable? first second).or
    ((compositions.find? (·.mark == second)).bind fun found =>
      (found.pairs.find? (·.1 == first)).map (·.2))

def parts? (point : Nat) : Option (Nat × Nat) :=
  (syllableParts? point).or
    (compositions.findSome? fun found =>
      (found.pairs.find? (·.2 == point)).map fun pair => (pair.1, found.mark))

/-- Takes up to so many marks off a character. -/
def withoutMarks : Nat → Nat → List Nat
  | 0, point => [point]
  | marks + 1, point =>
    match parts? point with
    | some (first, second) => withoutMarks marks first ++ [second]
    | none => [point]

/-- The smallest parts of a character.  A letter has at most three marks. -/
def takenApart (point : Nat) : List Nat := (respelled point).flatMap (withoutMarks 3)

/-- Adds a character to a text that is given backwards.  A mark goes before the
marks at the end that have a greater class. -/
def insertOrdered (point : Nat) : List Nat → List Nat
  | [] => [point]
  | last :: earlier =>
    if markClass point ≠ 0 && markClass point < markClass last then
      last :: insertOrdered point earlier
    else point :: last :: earlier

/-- Brings the marks after each character into the order of their classes. -/
def withOrderedMarks (points : List Nat) : List Nat :=
  (points.foldl (fun backwards point => insertOrdered point backwards) []).reverse

/-- Whether a character still touches the one before some marks: the last of
them has to be of a smaller class. -/
def reaches (marks : List Nat) (next : Nat) : Bool :=
  match marks.getLast? with
  | some last => markClass last < markClass next
  | none => true

/-- Puts together a character, the marks after it that it does not compose
with, and what follows. -/
def putTogetherFrom (base : Nat) (marks : List Nat) : List Nat → List Nat
  | [] => base :: marks
  | next :: rest =>
    match if reaches marks next then composedPair? base next else none with
    | some whole => putTogetherFrom whole marks rest
    | none =>
      if markClass next = 0 then base :: marks ++ putTogetherFrom next [] rest
      else putTogetherFrom base (marks ++ [next]) rest

/-- Puts characters and the ordered marks after them together. -/
def putTogether : List Nat → List Nat
  | [] => []
  | first :: rest => putTogetherFrom first [] rest

/-- The composed form of a text.  ASCII has one spelling only. -/
def composed (content : String) : String :=
  let points := content.toList.map Char.toNat
  if points.all (· < 0x80) then content
  else
    String.ofList
      ((putTogether (withOrderedMarks (points.flatMap takenApart))).map Char.ofNat)

def isComposed (content : String) : Bool := composed content == content

end EntitySql.Text
