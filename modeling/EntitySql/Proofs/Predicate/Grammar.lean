import EntitySql.Predicate.Grammar

/-!
# What the dictionary grammar refuses

A value that is no predicate of the dictionary grammar is a condition without a meaning,
and is refused as that.
-/

namespace EntitySql

/-- What fails does so because a condition has no meaning. -/
def Fault.OnlyConditions {α : Type} (result : Except Fault α) : Prop :=
  ∀ fault, result = .error fault → ∃ cause, fault = .condition cause

namespace Fault.OnlyConditions

variable {α β : Type}

theorem ok (value : α) : OnlyConditions (.ok value) :=
  nofun

theorem condition (cause : ConditionCause) :
    OnlyConditions (.error (.condition cause) : Except Fault α) := by
  rintro fault ⟨⟩
  exact ⟨cause, rfl⟩

theorem bind {first : Except Fault α} {next : α → Except Fault β} (start : OnlyConditions first)
    (continued : ∀ value, OnlyConditions (next value)) : OnlyConditions (first >>= next) := by
  cases first with
  | error fault =>
      obtain ⟨cause, rfl⟩ := start fault rfl
      exact condition cause
  | ok value => exact continued value

theorem map {result : Except Fault α} (start : OnlyConditions result) (view : α → β) :
    OnlyConditions (result.map view) := by
  cases result with
  | error fault =>
      obtain ⟨cause, rfl⟩ := start fault rfl
      exact condition cause
  | ok value => exact ok (view value)

end Fault.OnlyConditions

namespace Predicate

open Fault (OnlyConditions)

theorem readOperand_refuses (given : Value) : OnlyConditions (readOperand given) := by
  unfold readOperand
  split
  · exact .ok _
  · exact .ok _
  · exact .condition _

theorem readComparison_refuses (op : Comparator) (arguments : Value) :
    OnlyConditions (readComparison op arguments) := by
  unfold readComparison
  split
  · exact (readOperand_refuses _).bind fun left => (readOperand_refuses _).bind fun right => .ok _
  · exact .condition _

theorem readMembership_refuses (op : String) (arguments : Value) :
    OnlyConditions (readMembership op arguments) := by
  unfold readMembership
  split
  · refine (readOperand_refuses _).bind fun tested => ?_
    split
    · unfold testMembership
      split
      · exact .ok _
      · exact .condition _
    · exact .condition _
  · exact .condition _

mutual

theorem ofValue_refuses (given : Value) : OnlyConditions (ofValue given) := by
  unfold ofValue
  split
  · split
    · split
      · exact readComparison_refuses _ _
      · split
        · exact (ofValue_refuses _).bind fun start => ofValues_refuses _ start _
        · exact .condition _
      · split
        · exact readMembership_refuses _ _
        · split
          · exact (readMembership_refuses _ _).map _
          · split
            · exact (ofValue_refuses _).map _
            · exact .condition _
    · exact .condition _
  · exact .condition _

theorem ofValues_refuses (connective : Connective) (start : Predicate) (others : List Value) :
    OnlyConditions (ofValues connective start others) := by
  unfold ofValues
  split
  · exact .ok _
  · exact (ofValue_refuses _).bind fun right => ofValues_refuses _ _ _

end

end Predicate

end EntitySql
