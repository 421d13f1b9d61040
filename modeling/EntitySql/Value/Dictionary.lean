import EntitySql.Fault
import EntitySql.Number.Quantity

/-!
# Dictionary keys

Which values may be keys, and when two of them are the same key.  Numbers
are the same key when they are the same number, whatever their kind; points
in time when they are the same point; tuples item by item; other values when
they look the same.  What is undefined is the same as nothing.
-/

namespace EntitySql.Value

def quantity? : Value → Option Quantity
  | bool truth => some (.finite (.ofInt (if truth then 1 else 0)))
  | int number => some (.finite (.ofInt number))
  | float content => some (.ofBinary content)
  | decimal content => some (.ofDecimal content)
  | _ => none

/-- Whether two values that have no parts are the same key. -/
def sameScalar (first second : Value) : Bool :=
  match first.quantity?, second.quantity? with
  | some quantity, some other => quantity == other && quantity != .undefined
  | none, none => first.display == second.display
  | _, _ => false

mutual

def sameKey (first second : Value) : Bool :=
  match first, second with
  | text content, text other => content == other
  | tuple items, tuple others => sameKeys items others
  | dateTime day clock, dateTime otherDay otherClock =>
    Calendar.sameMoment (day, clock) (otherDay, otherClock)
  | time clock, time other => clock.same other
  | first, second => sameScalar first second

def sameKeys (items others : List Value) : Bool :=
  match items, others with
  | [], [] => true
  | item :: rest, other :: more => sameKey item other && sameKeys rest more
  | _, _ => false

end

@[simp]
theorem sameKey_text (content other : String) :
    sameKey (text content) (text other) = (content == other) := by
  rw [sameKey]

mutual

/-- Whether a value may be a key: nothing that can change may, and no
undefined number that signals. -/
def mayBeKey : Value → Bool
  | list _ => false
  | dict _ => false
  | entity .. => false
  | tuple items => mayAllBeKeys items
  | decimal content => !content.toList.contains 's'
  | _ => true

def mayAllBeKeys : List Value → Bool
  | [] => true
  | item :: rest => mayBeKey item && mayAllBeKeys rest

end

/-- Stores an entry: in place if the key is present, at the end otherwise. -/
def putEntry (entries : List (Value × Value)) (key value : Value) : List (Value × Value) :=
  match entries with
  | [] => [(key, value)]
  | entry :: rest =>
    if sameKey entry.1 key then (entry.1, value) :: rest else entry :: putEntry rest key value

/-- The entries that pairs leave when they are stored one after the other. -/
def united (pairs : List (Value × Value)) : List (Value × Value) :=
  pairs.foldl (fun entries pair => putEntry entries pair.1 pair.2) []

theorem putEntry_of_absent {entries : List (Value × Value)} {key : Value} (value : Value)
    (absent : ∀ entry ∈ entries, sameKey entry.1 key = false) :
    putEntry entries key value = entries ++ [(key, value)] := by
  induction entries with
  | nil => rfl
  | cons entry rest ih =>
      have later := ih fun other member => absent other (List.mem_cons_of_mem entry member)
      rw [putEntry, absent entry List.mem_cons_self, later]
      rfl

/-- Pairs with different keys are kept as they are. -/
theorem united_of_pairwise {pairs : List (Value × Value)}
    (distinct : pairs.Pairwise fun pair other => sameKey pair.1 other.1 = false) :
    united pairs = pairs := by
  suffices kept : ∀ entries, (entries ++ pairs).Pairwise
        (fun pair other : Value × Value => sameKey pair.1 other.1 = false) →
      pairs.foldl (fun entries pair => putEntry entries pair.1 pair.2) entries = entries ++ pairs
    from kept [] distinct
  clear distinct
  induction pairs with
  | nil => exact fun entries _ => (List.append_nil entries).symm
  | cons pair rest ih =>
      intro entries distinct
      have absent : ∀ entry ∈ entries, sameKey entry.1 pair.1 = false := fun entry member =>
        (List.pairwise_append.mp distinct).2.2 entry member pair List.mem_cons_self
      rw [List.foldl_cons, putEntry_of_absent pair.2 absent, ih _ (by simpa using distinct)]
      simp

/-- The entries of a dictionary made from pairs, each of which has to have a
value that may be a key. -/
def dictionary (pairs : List (Value × Value)) : Except Fault (List (Value × Value)) :=
  match pairs.find? fun pair => !pair.1.mayBeKey with
  | some pair => .error (.misfit (.notKey pair.1))
  | none => .ok (united pairs)

/-- Different texts are different keys. -/
theorem dictionary_of_texts {names : List String} (distinct : names.Nodup) (values : List Value) :
    dictionary ((names.map text).zip values) = .ok ((names.map text).zip values) := by
  have named : ∀ pair ∈ (names.map text).zip values, ∃ name ∈ names, text name = pair.1 :=
    fun pair member => List.mem_map.mp (List.of_mem_zip member).1
  have allowed : ((names.map text).zip values).find? (fun pair => !pair.1.mayBeKey) = none := by
    refine List.find?_eq_none.mpr fun pair member => ?_
    obtain ⟨name, -, same⟩ := named pair member
    simp [← same, mayBeKey]
  rw [dictionary, allowed]
  refine congrArg Except.ok (united_of_pairwise ?_)
  clear named allowed
  induction names generalizing values with
  | nil => exact .nil
  | cons name rest ih =>
      cases values with
      | nil => exact .nil
      | cons value others =>
          obtain ⟨fresh, distinct⟩ := List.nodup_cons.mp distinct
          refine List.pairwise_cons.mpr ⟨fun pair member => ?_, ih distinct others⟩
          obtain ⟨other, among, same⟩ := List.mem_map.mp (List.of_mem_zip member).1
          have different : name ≠ other := fun equal => fresh (equal ▸ among)
          rw [← same, sameKey_text]
          exact beq_eq_false_iff_ne.mpr different

end EntitySql.Value
