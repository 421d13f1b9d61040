import EntitySql.Parameters
import EntitySql.Proofs.Association
import EntitySql.Proofs.Text.Blanks
import Mathlib.Data.List.Nodup
import Mathlib.Data.List.Perm.Subperm

/-!
# Fresh parameters

Among one more candidates than there are names in use, one is free.  So a value
is always bound under a name of its own, and what has been bound before stays
bound.
-/

namespace EntitySql

variable {taken : String → Bool} {nameOf : Nat → String} {start limit : Nat}

theorem not_taken_firstFree
    (free : ∃ number, start ≤ number ∧ number ≤ start + limit ∧ taken (nameOf number) = false) :
    taken (nameOf (firstFree taken nameOf start limit)) = false := by
  induction limit generalizing start with
  | zero =>
      obtain ⟨number, above, below, isFree⟩ := free
      obtain rfl : number = start := by omega
      exact isFree
  | succ limit ih =>
      rw [firstFree]
      split
      · rename_i first
        apply ih
        obtain ⟨number, above, below, isFree⟩ := free
        have different : number ≠ start := by
          rintro rfl
          rw [first] at isFree
          cases isFree
        exact ⟨number, by omega, by omega, isFree⟩
      · rename_i first
        simpa using first

/-- Of different candidates, one more than there are names in use, one is free. -/
theorem exists_free (injective : Function.Injective nameOf) (names : List String) (start : Nat) :
    ∃ number, start ≤ number ∧ number ≤ start + names.length ∧ nameOf number ∉ names := by
  by_contra allTaken
  push Not at allTaken
  have subset : (List.range' start (names.length + 1)).map nameOf ⊆ names := by
    intro name member
    obtain ⟨number, inRange, rfl⟩ := List.mem_map.mp member
    rw [List.mem_range'_1] at inRange
    exact allTaken number (by omega) (by omega)
  have nodup : ((List.range' start (names.length + 1)).map nameOf).Nodup :=
    List.Nodup.map injective List.nodup_range'
  have length_le := (nodup.subperm subset).length_le
  rw [List.length_map, List.length_range'] at length_le
  omega

namespace Parameters

theorem generatedName_injective : Function.Injective generatedName := by
  intro first second same
  have digits : Nat.toDigits 10 first = Nat.toDigits 10 second := by
    have characters := congrArg String.toList same
    simpa [generatedName, Nat.toString_eq_repr, Nat.toList_repr] using characters
  calc
    first = Nat.ofDigitChars 10 (Nat.toDigits 10 first) 0 :=
      Nat.ofDigitChars_ten_toDigits.symm
    _ = Nat.ofDigitChars 10 (Nat.toDigits 10 second) 0 := by rw [digits]
    _ = second := Nat.ofDigitChars_ten_toDigits

/-- A generated name consists of word characters. -/
theorem isWord_generatedName (number : Nat) :
    ∀ c ∈ (generatedName number).toList, Text.isWord c = true := by
  intro c member
  have parts : c = 'p' ∨ c ∈ Nat.toDigits 10 number := by
    simpa [generatedName, Nat.toString_eq_repr, Nat.toList_repr] using member
  rcases parts with rfl | digit
  · decide
  · exact (Text.isWord_of_isDigit (Nat.isDigit_of_mem_toDigits (by decide) (by decide) digit)).1

theorem generatedName_ne_empty (number : Nat) : generatedName number ≠ "" := by
  intro empty
  have characters := congrArg String.toList empty
  simp [generatedName] at characters

variable {parameters : Parameters} {name : String} {value : Value}

theorem has_eq_false_iff :
    parameters.has name = false ↔ Association.find parameters.entries name = none := by
  rw [has, names, ← Bool.not_eq_true, List.contains_iff_mem, ← Association.has_iff_mem,
    Association.has_eq_isSome]
  simp

/-- A value is bound under a generated name that was not in use, behind all others. -/
theorem bindFresh_run (value : Value) (parameters : Parameters) :
    ∃ number reached, bindFresh value parameters = (.ok (generatedName number), reached) ∧
      reached.entries = parameters.entries ++ [(generatedName number, value)] ∧
      Association.find parameters.entries (generatedName number) = none := by
  refine ⟨_, _, rfl, rfl, has_eq_false_iff.mp (not_taken_firstFree ?_)⟩
  obtain ⟨number, above, below, free⟩ :=
    exists_free generatedName_injective parameters.names parameters.counter
  refine ⟨number, above, ?_, ?_⟩
  · simpa [names] using below
  · simpa [has] using free

end Parameters

end EntitySql
