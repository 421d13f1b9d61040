import EntitySql.Text.CharacterTables

/-!
# Character classes

The classes of characters that names and statement texts are sorted by.
Below 128 each class is written out; above it the character tables decide.
-/

namespace EntitySql.Text

/-- White space and separators: what trimming removes and what breaks a name into words. -/
def isBlank (c : Char) : Bool :=
  let point := c.toNat
  if point < 128 then (9 ≤ point && point ≤ 13) || (28 ≤ point && point ≤ 32)
  else
    (0x2000 ≤ point && point ≤ 0x200A) ||
      [0x85, 0xA0, 0x1680, 0x2028, 0x2029, 0x202F, 0x205F, 0x3000].contains point

/-- A character with a digit value. -/
def isDigit (c : Char) : Bool :=
  if c.toNat < 128 then c.isDigit else digitBoundaries.contains c.toNat

/-- A letter, a digit, another numeric character or an underscore. -/
def isWord (c : Char) : Bool :=
  if c.toNat < 128 then c.isAlphanum || c == '_' else wordBoundaries.contains c.toNat

/-- A character with which the name of a member may begin. -/
def isNameStart (c : Char) : Bool :=
  let point := c.toNat
  if point < 128 then c.isAlpha || c == '_'
  else
    (wordBoundaries.contains point && !neverFirstBoundaries.contains point) ||
      [0x1885, 0x1886, 0x2118, 0x212E].contains point

/-- A character that may stand in the name of a member after its first one. -/
def isNamePart (c : Char) : Bool :=
  let point := c.toNat
  if point < 128 then isWord c
  else
    (wordBoundaries.contains point && !neverNamedBoundaries.contains point) ||
      markBoundaries.contains point

def isUppercase (c : Char) : Bool :=
  if c.toNat < 128 then c.isUpper else uppercaseStrides.any (·.contains c.toNat)

def isLowercase (c : Char) : Bool :=
  if c.toNat < 128 then c.isLower else lowercaseStrides.any (·.contains c.toNat)

/-- A character that is shown as itself when a text is displayed. -/
def isPrintable (c : Char) : Bool :=
  if c.toNat < 128 then 32 ≤ c.toNat && c.toNat < 127 else printableBoundaries.contains c.toNat

/-- A letter that takes part in casing. -/
def isCased (c : Char) : Bool :=
  if c.toNat < 128 then c.isAlpha else casedBoundaries.contains c.toNat

/-- A character that casing looks past, such as an apostrophe inside a word. -/
def isCaseIgnorable (c : Char) : Bool :=
  if c.toNat < 128 then ['\'', '.', ':', '^', '`'].contains c
  else caseIgnorableBoundaries.contains c.toNat

end EntitySql.Text
