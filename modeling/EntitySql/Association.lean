/-!
# Ordered associations

An association keeps its entries in the order in which their keys first
came.  Storing under a key that is present replaces the value in place.
-/

namespace EntitySql

/-- Entries in order of first arrival, each key once. -/
abbrev Association (κ : Type) (ν : Type) := List (κ × ν)

namespace Association

variable {κ ν : Type}

/-- Stores a value: in place if the key is present, at the end otherwise. -/
def put [BEq κ] (entries : Association κ ν) (key : κ) (value : ν) : Association κ ν :=
  match entries with
  | [] => [(key, value)]
  | entry :: rest =>
    if entry.1 == key then (entry.1, value) :: rest else entry :: put rest key value

def find [BEq κ] (entries : Association κ ν) (key : κ) : Option ν :=
  (entries.find? (·.1 == key)).map (·.2)

def has [BEq κ] (entries : Association κ ν) (key : κ) : Bool :=
  entries.any (·.1 == key)

def ofPairs [BEq κ] (pairs : List (κ × ν)) : Association κ ν :=
  pairs.foldl (fun entries pair => put entries pair.1 pair.2) []

end Association

end EntitySql
