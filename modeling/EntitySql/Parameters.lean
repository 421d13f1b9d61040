import EntitySql.Action
import EntitySql.Text.CharacterClasses

/-!
# Parameters

The parameters of one statement in the order in which they were added.
Generated names are `p0`, `p1` and so on; a named parameter keeps a safe form
of its hint.  Either kind of name steps aside when it is taken.
-/

namespace EntitySql

/-- Parameter values by name, and the number that the next generated name tries first. -/
structure Parameters where
  entries : List (String × Value) := []
  counter : Nat := 0
  deriving Inhabited, Repr

/-- The first number from `start` on whose name is free, looking past at most `limit` of them. -/
def firstFree (taken : String → Bool) (nameOf : Nat → String) (start : Nat) : Nat → Nat
  | 0 => start
  | limit + 1 =>
    if taken (nameOf start) then firstFree taken nameOf (start + 1) limit else start

namespace Parameters

def names (parameters : Parameters) : List String := parameters.entries.map (·.1)

def values (parameters : Parameters) : List Value := parameters.entries.map (·.2)

def has (parameters : Parameters) (name : String) : Bool := parameters.names.contains name

def store (parameters : Parameters) (name : String) (value : Value) : Parameters :=
  { parameters with entries := parameters.entries ++ [(name, value)] }

def generatedName (number : Nat) : String := "p" ++ toString number

/-- The safe form of a hint: word characters only, at least one, and no digit in front. -/
def baseName (hint : String) : String :=
  let safe := hint.toList.map fun c => if Text.isWord c then c else '_'
  match safe with
  | [] => "param"
  | first :: rest => String.ofList (if Text.isDigit first then '_' :: first :: rest else safe)

def suffixedName (base : String) (number : Nat) : String :=
  if number == 0 then base else base ++ "_" ++ toString number

/-- Adds a value under the next free generated name.  Among one more
candidates than there are names in use, one is free. -/
def bindFresh (value : Value) : Action Parameters String := fun parameters =>
  let number :=
    firstFree parameters.has generatedName parameters.counter parameters.entries.length
  let name := generatedName number
  (.ok name, { parameters.store name value with counter := number + 1 })

/-- Adds a value under the first free form of a hint. -/
def bindHinted (hint : String) (value : Value) : Action Parameters String := fun parameters =>
  let base := baseName hint
  let number := firstFree parameters.has (suffixedName base) 0 parameters.entries.length
  let name := suffixedName base number
  (.ok name, parameters.store name value)

end Parameters

end EntitySql
