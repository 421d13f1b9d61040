import EntitySql.Proofs.Action
import EntitySql.Proofs.Parameters.Binding
import Mathlib.Computability.StateTransition

/-!
# Values that are added one after the other

While a name is in use, a search goes on to the next one, and nothing but the names in use
bounds it.  It ends, since the candidates are all different.  So every value, added with a hint
or without, gets a safe name of its own, and stays under it while others are added.
-/

namespace EntitySql

open StateTransition (Reaches eval mem_eval)

variable {taken : String → Bool} {nameOf : Nat → String}

/-! ## Searches -/

/-- One round of a search: a number whose name is taken gives way to the next one. -/
def nextRound (taken : String → Bool) (nameOf : Nat → String) (number : Nat) : Option Nat :=
  if taken (nameOf number) then some (number + 1) else none

theorem nextRound_eq_none {number : Nat} :
    nextRound taken nameOf number = none ↔ taken (nameOf number) = false := by
  simp [nextRound]

theorem reaches_firstFree (taken : String → Bool) (nameOf : Nat → String) (start limit : Nat) :
    Reaches (nextRound taken nameOf) start (firstFree taken nameOf start limit) := by
  induction limit generalizing start with
  | zero => exact .refl
  | succ limit ih =>
      rw [firstFree]
      split
      · rename_i first
        exact .head (if_pos first) (ih (start + 1))
      · exact .refl

namespace Parameters

variable {before after middle : Parameters} {name : String} {names : List String}

/-- A search for a name that is not in use ends, though it has no limit. -/
theorem search_ends (injective : Function.Injective nameOf) (parameters : Parameters)
    (start : Nat) :
    firstFree parameters.has nameOf start parameters.entries.length ∈
      eval (nextRound parameters.has nameOf) start := by
  refine mem_eval.mpr ⟨reaches_firstFree .., nextRound_eq_none.mpr (not_taken_firstFree ?_)⟩
  obtain ⟨number, above, below, free⟩ := exists_free injective parameters.names start
  refine ⟨number, above, ?_, ?_⟩
  · simpa [names] using below
  · simpa [has] using free

theorem notMem_of_found {start number : Nat}
    (found : number ∈ eval (nextRound before.has nameOf) start) :
    nameOf number ∉ before.names := by
  simpa [has] using nextRound_eq_none.mp (mem_eval.mp found).2

/-! ## Safe names -/

/-- A name that can stand behind any placeholder sign. -/
structure IsSafe (name : String) : Prop where
  given : name ≠ ""
  words : ∀ c ∈ name.toList, Text.isWord c = true
  start : ∀ c ∈ name.toList.head?, Text.isDigit c = false

theorem isSafe_generatedName (number : Nat) : IsSafe (generatedName number) where
  given := generatedName_ne_empty number
  words := isWord_generatedName number
  start := by
    intro c first
    have letter : c = 'p' := by simpa [generatedName, eq_comm] using first
    rw [letter]
    decide

theorem head_baseName (hint : String) :
    ∀ c ∈ (baseName hint).toList.head?, Text.isDigit c = false := by
  have begins : Text.isDigit 'p' = false ∧ Text.isDigit '_' = false := by decide
  simp only [baseName]
  split
  · simpa using begins.1
  · split
    · simpa using begins.2
    · rename_i first rest safe_eq notDigit
      rw [safe_eq, String.toList_ofList]
      simpa using notDigit

theorem isSafe_suffixedName (hint : String) (number : Nat) :
    IsSafe (suffixedName (baseName hint) number) where
  given := (readable_suffixedName hint number).1
  words := (readable_suffixedName hint number).2
  start := by
    rw [suffixedName]
    split
    · exact head_baseName hint
    · have given : (baseName hint).toList ≠ [] := by simpa using baseName_ne_empty hint
      rw [String.append_assoc, String.toList_append, List.head?_append_of_ne_nil _ given]
      exact head_baseName hint

/-! ## Additions -/

/-- A value that is to be added, and the hint for its name if there is one. -/
structure Addition where
  hint : Option String
  value : Value

def Addition.run (addition : Addition) : Action Parameters String :=
  match addition.hint with
  | none => bindFresh addition.value
  | some hint => bindHinted hint addition.value

/-- An addition searches without a limit, and stores its value under the name with which the
search ends. -/
inductive Adds (before : Parameters) : Addition → String → Parameters → Prop
  | fresh {number : Nat} (value : Value)
      (found : number ∈ eval (nextRound before.has generatedName) before.counter) :
      Adds before ⟨none, value⟩ (generatedName number)
        ⟨Association.put before.entries (generatedName number) value, number + 1⟩
  | hinted {number : Nat} (hint : String) (value : Value)
      (found : number ∈ eval (nextRound before.has (suffixedName (baseName hint))) 0) :
      Adds before ⟨some hint, value⟩ (suffixedName (baseName hint) number)
        ⟨Association.put before.entries (suffixedName (baseName hint) number) value,
          before.counter⟩

/-- Additions one after the other. -/
inductive AddsAll : Parameters → List Addition → List String → Parameters → Prop
  | nil (parameters : Parameters) : AddsAll parameters [] [] parameters
  | cons {before middle after : Parameters} {addition : Addition} {others : List Addition}
      {name : String} {names : List String} (first : Adds before addition name middle)
      (later : AddsAll middle others names after) :
      AddsAll before (addition :: others) (name :: names) after

variable {addition : Addition} {additions : List Addition}

theorem put_eq_store {start number : Nat}
    (found : number ∈ eval (nextRound before.has nameOf) start) (value : Value) :
    Association.put before.entries (nameOf number) value =
      (before.store (nameOf number) value).entries :=
  Association.put_of_not_mem (notMem_of_found found)

/-- Every addition comes to an end. -/
theorem exists_adds (addition : Addition) (before : Parameters) :
    ∃ name after, addition.run before = (.ok name, after) ∧ Adds before addition name after := by
  obtain ⟨_ | hint, value⟩ := addition
  · have found := search_ends generatedName_injective before before.counter
    have adds := Adds.fresh value found
    rw [put_eq_store found] at adds
    exact ⟨_, _, rfl, adds⟩
  · have found := search_ends (suffixedName_injective (baseName hint)) before 0
    have adds := Adds.hinted hint value found
    rw [put_eq_store found] at adds
    exact ⟨_, _, rfl, adds⟩

theorem exists_addsAll (additions : List Addition) (before : Parameters) :
    ∃ names after, additions.mapM Addition.run before = (.ok names, after) ∧
      AddsAll before additions names after := by
  induction additions generalizing before with
  | nil => exact ⟨[], before, rfl, .nil before⟩
  | cons addition others ih =>
      obtain ⟨name, middle, ran, adds⟩ := exists_adds addition before
      obtain ⟨names, after, othersRan, addsAll⟩ := ih middle
      refine ⟨name :: names, after, ?_, .cons adds addsAll⟩
      rw [List.mapM_cons]
      exact Action.bind_eq_ok.mpr ⟨_, _, ran, Action.bind_eq_ok.mpr ⟨_, _, othersRan, rfl⟩⟩

theorem Adds.entries_eq (adds : Adds before addition name after) :
    after.entries = before.entries ++ [(name, addition.value)] := by
  cases adds with
  | fresh value found => exact put_eq_store found value
  | hinted hint value found => exact put_eq_store found value

theorem Adds.name_notMem (adds : Adds before addition name after) : name ∉ before.names := by
  cases adds with
  | fresh value found => exact notMem_of_found found
  | hinted hint value found => exact notMem_of_found found

theorem Adds.isSafe (adds : Adds before addition name after) : IsSafe name := by
  cases adds with
  | fresh => exact isSafe_generatedName _
  | hinted hint => exact isSafe_suffixedName hint _

theorem AddsAll.entries_eq (addsAll : AddsAll before additions names after) :
    after.entries = before.entries ++ names.zip (additions.map (·.value)) := by
  induction addsAll with
  | nil => simp
  | cons first later ih => simp [ih, first.entries_eq]

theorem AddsAll.length_eq (addsAll : AddsAll before additions names after) :
    names.length = additions.length := by
  induction addsAll with
  | nil => rfl
  | cons first later ih => simp [ih]

/-- What is added keeps the names apart. -/
theorem AddsAll.nodup (addsAll : AddsAll before additions names after)
    (apart : before.names.Nodup) : after.names.Nodup := by
  induction addsAll with
  | nil => exact apart
  | cons first later ih =>
      apply ih
      rw [Parameters.names, first.entries_eq, List.map_append]
      exact apart.append (List.nodup_singleton _) (List.disjoint_singleton.mpr first.name_notMem)

theorem AddsAll.isSafe (addsAll : AddsAll before additions names after) :
    ∀ name ∈ names, IsSafe name := by
  induction addsAll with
  | nil => simp
  | cons first later ih => exact List.forall_mem_cons.mpr ⟨first.isSafe, ih⟩

/-- However often and with whatever hints values are added, every search for a name ends.  The
names that are answered are safe, all different, and in their order the names in use.  Under each
of them stands the value that was added when it was answered, and there is nothing else. -/
theorem additions_kept_apart (additions : List Addition) :
    ∃ names parameters, additions.mapM Addition.run {} = (.ok names, parameters) ∧
      AddsAll {} additions names parameters ∧
      parameters.names = names ∧ names.Nodup ∧
      names.map (Association.find parameters.entries) = additions.map (some ·.value) ∧
      parameters.entries.length = additions.length ∧
      ∀ name ∈ names, IsSafe name := by
  obtain ⟨names, parameters, ran, addsAll⟩ := exists_addsAll additions {}
  have entries_eq : parameters.entries = names.zip (additions.map (·.value)) := addsAll.entries_eq
  have length_eq := addsAll.length_eq
  have names_eq : parameters.names = names := by
    rw [Parameters.names, entries_eq, List.map_fst_zip (by simp [length_eq])]
  have nodup : parameters.names.Nodup := addsAll.nodup List.nodup_nil
  have found : names.map (Association.find parameters.entries) =
      additions.map (some ·.value) := by
    calc
      names.map (Association.find parameters.entries) =
          parameters.entries.map fun entry => Association.find parameters.entries entry.1 := by
        rw [← names_eq, Parameters.names, List.map_map]
        rfl
      _ = parameters.entries.map fun entry => some entry.2 :=
        List.map_congr_left fun entry member => Association.find_of_mem nodup member
      _ = (parameters.entries.map (·.2)).map some := by rw [List.map_map]; rfl
      _ = additions.map (some ·.value) := by
        rw [entries_eq, List.map_snd_zip (by simp [length_eq]), List.map_map]
        rfl
  refine ⟨names, parameters, ran, addsAll, names_eq, names_eq ▸ nodup, found, ?_, addsAll.isSafe⟩
  rw [entries_eq, List.length_zip, List.length_map, length_eq, Nat.min_self]

/-- Hints that look like generated names and like hints with a number, and hints that are not
safe as they are. -/
theorem colliding_hints_kept_apart :
    let hints := [some "p0", none, some "X", some "X", some "X_1", some "", some "9 lives"]
    let additions := hints.mapIdx fun index hint => (⟨hint, .int index⟩ : Addition)
    let names := ["p0", "p1", "X", "X_1", "X_1_1", "param", "_9_lives"]
    ∃ parameters, additions.mapM Addition.run {} = (.ok names, parameters) ∧
      names.map (Association.find parameters.entries) = additions.map (some ·.value) ∧
      "_9_lives" ∈ names ∧ IsSafe "_9_lives" := by
  intro hints additions names
  have answered : (additions.mapM Addition.run {}).1 = .ok names := rfl
  obtain ⟨_, parameters, ran, _, _, _, found, _, safe⟩ := additions_kept_apart additions
  rw [ran] at answered
  cases answered
  exact ⟨parameters, ran, found, by decide, safe _ (by decide)⟩

end Parameters

end EntitySql
