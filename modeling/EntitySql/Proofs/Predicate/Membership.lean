import EntitySql.Predicate.Combination
import EntitySql.Proofs.Predicate.Qualified
import EntitySql.Proofs.Sql.Conjunction

/-!
# Membership tests and chains of comparisons

A membership test stands for a disjunction of equations, and its negation for a conjunction
of inequalities.  They select the same rows as long as no value is null: comparisons with
null are null tests, but a null in a collection is equal to nothing and different from
nothing.
-/

namespace EntitySql

open Sql (Truth Database bothTruths)

namespace Sql

theorem Truth.either_eq_yes {left right : Truth} :
    left.either right = .yes ↔ left = .yes ∨ right = .yes := by
  cases left <;> cases right <;> decide

theorem Truth.either_eq_no {left right : Truth} :
    left.either right = .no ↔ left = .no ∧ right = .no := by
  cases left <;> cases right <;> decide

theorem Truth.negated_eq_yes {truth : Truth} : truth.negated = .yes ↔ truth = .no := by
  cases truth <;> decide

/-- The truth of a disjunction, if both sides have one. -/
def eitherTruths (left right : Option Truth) : Option Truth := do
  let left ← left
  let right ← right
  return left.either right

/-- A disjunction is true exactly if what it starts with is, or something that is added. -/
theorem foldl_eitherTruths {α : Type} {truth : α → Option Truth} {items : List α} (start : Truth)
    (known : ∀ item ∈ items, ∃ value, truth item = some value) :
    ∃ whole, (items.map truth).foldl eitherTruths (some start) = some whole ∧
      (whole = .yes ↔ start = .yes ∨ ∃ item ∈ items, truth item = some .yes) := by
  induction items generalizing start with
  | nil => exact ⟨start, rfl, by simp⟩
  | cons item rest ih =>
      obtain ⟨⟨value, isValue⟩, restKnown⟩ := List.forall_mem_cons.mp known
      obtain ⟨whole, folded, wholeYes⟩ := ih (start.either value) restKnown
      refine ⟨whole, ?_, ?_⟩
      · rw [List.map_cons, List.foldl_cons, isValue]
        exact folded
      · rw [wholeYes, Truth.either_eq_yes, List.exists_mem_cons_iff, isValue, Option.some.injEq,
          or_assoc]

namespace Database

variable {database : Database} {datum item : Option database.Datum} {value : Value}
variable {items : List (Option database.Datum)} {values : List Value}

theorem compare_equal_eq_no :
    database.compare .equal datum item = .no ↔ database.compare .notEqual datum item = .yes := by
  cases datum with
  | none => cases item <;> simp [compare]
  | some left =>
      cases item with
      | none => simp [compare]
      | some right =>
          simp only [compare]
          cases database.order left right with
          | none => decide
          | some ordering => cases ordering <;> decide

theorem belongs_eq_yes :
    database.belongs datum items = .yes ↔
      ∃ item ∈ items, database.compare .equal datum item = .yes := by
  induction items with
  | nil => simp [belongs]
  | cons item rest ih => rw [belongs, Truth.either_eq_yes, ih, List.exists_mem_cons_iff]

theorem belongs_eq_no :
    database.belongs datum items = .no ↔
      ∀ item ∈ items, database.compare .notEqual datum item = .yes := by
  induction items with
  | nil => simp [belongs]
  | cons item rest ih =>
      rw [belongs, Truth.either_eq_no, ih, compare_equal_eq_no, List.forall_mem_cons]

/-- Nothing is true of a missing datum. -/
theorem compare_none_left (op : Comparator) : database.compare op none item ≠ .yes := by
  cases item <;> simp [compare]

theorem compare_none_right (op : Comparator) : database.compare op datum none ≠ .yes := by
  cases datum <;> simp [compare]

/-- The truth of a comparison of a datum with a value.  Null is tested for. -/
def tests (database : Database) (op : Comparator) (datum : Option database.Datum) :
    Value → Option Truth
  | .null => op.nullTruth datum
  | value => some (database.compare op datum (database.ofValue value))

theorem tests_of_given (op : Comparator) (given : value ≠ .null) :
    database.tests op datum value = some (database.compare op datum (database.ofValue value)) := by
  cases value with
  | null => exact absurd rfl given
  | _ => rfl

/-- A test for equality is an equation, except that it finds the missing datum by null. -/
theorem tests_equal_eq_yes :
    database.tests .equal datum value = some .yes ↔
      database.compare .equal datum (database.ofValue value) = .yes ∨
        (value = .null ∧ datum = none) := by
  by_cases isNull : value = .null
  · subst isNull
    rw [database.ofValue_null]
    have unequal : database.compare .equal datum none ≠ .yes := compare_none_right .equal
    cases datum <;> simp [tests, Comparator.nullTruth, Database.isNull, Truth.ofBool, unequal]
  · simp [tests_of_given, isNull]

/-- A collection has a datum in it if a comparison finds the datum there, which finds the
missing one by null as well. -/
theorem belongs_iff_tests :
    database.belongs datum (values.map database.ofValue) = .yes ↔
      (∃ value ∈ values, database.tests .equal datum value = some .yes) ∧
        ¬(.null ∈ values ∧ datum = none) := by
  rw [belongs_eq_yes]
  constructor
  · rintro ⟨_, isItem, equal⟩
    obtain ⟨value, isValue, rfl⟩ := List.mem_map.mp isItem
    refine ⟨⟨value, isValue, tests_equal_eq_yes.mpr (.inl equal)⟩, ?_⟩
    rintro ⟨_, rfl⟩
    exact compare_none_left _ equal
  · rintro ⟨⟨value, isValue, found⟩, apart⟩
    obtain equal | ⟨rfl, missing⟩ := tests_equal_eq_yes.mp found
    · exact ⟨_, List.mem_map_of_mem isValue, equal⟩
    · exact absurd ⟨isValue, missing⟩ apart

/-- A collection without null has no datum in it that is different from each value of it. -/
theorem belongs_no_iff_tests :
    database.belongs datum (values.map database.ofValue) = .no ↔
      (∀ value ∈ values, database.tests .notEqual datum value = some .yes) ∧ .null ∉ values := by
  rw [belongs_eq_no, List.forall_mem_map]
  constructor
  · intro different
    -- nothing is different from null, the missing datum least of all
    have noNull : Value.null ∉ values := fun isNull =>
      compare_none_right _ (database.ofValue_null ▸ different .null isNull)
    refine ⟨fun value isValue => ?_, noNull⟩
    rw [tests_of_given _ (ne_of_mem_of_not_mem isValue noNull), different value isValue]
  · rintro ⟨found, noNull⟩ value isValue
    have known := found value isValue
    rw [tests_of_given _ (ne_of_mem_of_not_mem isValue noNull)] at known
    exact Option.some.inj known

/-- Equality and its negation have a truth for each datum. -/
theorem tests_known {op : Comparator} (isTest : op = .equal ∨ op = .notEqual)
    (datum : Option database.Datum) (value : Value) :
    ∃ truth, database.tests op datum value = some truth := by
  by_cases isNull : value = .null
  · subst isNull
    obtain rfl | rfl := isTest <;> exact ⟨_, rfl⟩
  · exact ⟨_, tests_of_given op isNull⟩

end Database

end Sql

/-- The truth of two conditions with a connective between them, if both have one. -/
def Connective.truths : Connective → Option Truth → Option Truth → Option Truth
  | .conjunction => bothTruths
  | .disjunction => Sql.eitherTruths

namespace Predicate

variable {scope : Scope} {database : Database} {row : database.Row}

/-- Comparisons of a member with one value after the other, and a connective between them. -/
def chain (connective : Connective) (op : Comparator) (member first : Value)
    (rest : List Value) : Predicate :=
  (rest.map (test member op)).foldl (logical connective) (test member op first)

theorem combine_of_isCondition (connective : Connective) {left : Predicate}
    (condition : left.isCondition = true) (right : Predicate) :
    combine connective left right = .ok (logical connective left right) := by
  cases left with
  | comparison => rfl
  | logical => rfl
  | membership => rfl
  | negation => rfl
  | _ => cases condition

/-- A chain is what comparisons of the member are combined to, one after the other. -/
theorem foldlM_combine (connective : Connective) (op : Comparator) (member first : Value)
    (rest : List Value) :
    (rest.map fun value => compare op (.member member) (.raw value)).foldlM (combine connective)
        (compare op (.member member) (.raw first)) =
      .ok (chain connective op member first rest) := by
  have condition : (test member op first).isCondition = true := rfl
  change List.foldlM _ (test member op first) _ = _
  unfold chain
  generalize test member op first = start at condition
  induction rest generalizing start with
  | nil => rfl
  | cons value rest ih =>
      rw [List.map_cons, List.foldlM_cons, combine_of_isCondition connective condition]
      exact ih _ rfl

theorem truth_test {name : Value} {column : String} (isColumn : scope.columnName name = some column)
    (op : Comparator) (value : Value) :
    (test name op value).truth scope database row = database.tests op (row column) value := by
  rw [test, truth, isColumn]
  cases value <;> rfl

theorem truth_foldl (connective : Connective) (first : Predicate) (rest : List Predicate) :
    (rest.foldl (logical connective) first).truth scope database row =
      (rest.map (·.truth scope database row)).foldl connective.truths
        (first.truth scope database row) := by
  induction rest generalizing first with
  | nil => rfl
  | cons next rest ih =>
      have joined : (logical connective first next).truth scope database row =
          connective.truths (first.truth scope database row) (next.truth scope database row) := by
        cases connective <;> rfl
      rw [List.foldl_cons, ih, List.map_cons, List.foldl_cons, joined]

theorem truth_chain {member : Value} {column : String}
    (isColumn : scope.columnName member = some column) (connective : Connective) (op : Comparator)
    (first : Value) (rest : List Value) :
    (chain connective op member first rest).truth scope database row =
      (rest.map (database.tests op (row column))).foldl connective.truths
        (database.tests op (row column) first) := by
  rw [chain, truth_foldl, truth_test isColumn, List.map_map]
  congr 1
  exact List.map_congr_left fun value _ => truth_test isColumn op value

/-- A row is selected by a disjunction of equations if one of them finds it. -/
theorem truth_equations {member : Value} {column : String} (row : database.Row)
    (isColumn : scope.columnName member = some column) (first : Value) (rest : List Value) :
    ∃ truth, (chain .disjunction .equal member first rest).truth scope database row = some truth ∧
      (truth = .yes ↔ ∃ value ∈ first :: rest,
        database.tests .equal (row column) value = some .yes) := by
  obtain ⟨start, isStart⟩ := Database.tests_known (.inl rfl) (row column) first
  obtain ⟨whole, folded, wholeYes⟩ := Sql.foldl_eitherTruths start
    fun value (_ : value ∈ rest) => Database.tests_known (.inl rfl) (row column) value
  refine ⟨whole, ?_, ?_⟩
  · rw [truth_chain isColumn, isStart]
    exact folded
  · rw [wholeYes, List.exists_mem_cons_iff, isStart, Option.some.injEq]

/-- A row is selected by a conjunction of inequalities if each of them finds it. -/
theorem truth_inequalities {member : Value} {column : String} (row : database.Row)
    (isColumn : scope.columnName member = some column) (first : Value) (rest : List Value) :
    ∃ truth, (chain .conjunction .notEqual member first rest).truth scope database row =
        some truth ∧
      (truth = .yes ↔ ∀ value ∈ first :: rest,
        database.tests .notEqual (row column) value = some .yes) := by
  obtain ⟨start, isStart⟩ := Database.tests_known (.inr rfl) (row column) first
  obtain ⟨whole, folded, wholeYes⟩ := Sql.foldl_bothTruths start
    fun value (_ : value ∈ rest) => Database.tests_known (.inr rfl) (row column) value
  refine ⟨whole, ?_, ?_⟩
  · rw [truth_chain isColumn, isStart]
    exact folded
  · rw [wholeYes, List.forall_mem_cons, isStart, Option.some.injEq]

end Predicate

namespace Scope

open Sql (pathText pathName)

variable {scope : Scope} {member : String}

theorem IsAbout.comparison {op : Comparator} (isTest : op = .equal ∨ op = .notEqual)
    (maps : scope.Maps member) (value : Value) :
    scope.IsAbout member (.test (.text member) op value) :=
  .leaf rfl rfl rfl ⟨⟨member, rfl⟩, trivial⟩ (.memberFirst op maps fun _ => isTest)

theorem IsAbout.membership (maps : scope.Maps member) (values : List Value) :
    scope.IsAbout member (.membership (.member (.text member)) values) :=
  .leaf rfl rfl rfl ⟨member, rfl⟩ (.inside values maps)

theorem IsAbout.nonmembership (maps : scope.Maps member) (values : List Value) :
    scope.IsAbout member (.negation (.membership (.member (.text member)) values)) :=
  .leaf rfl rfl rfl ⟨member, rfl⟩ (.outside values maps)

theorem IsAbout.chain (connective : Connective) {op : Comparator}
    (isTest : op = .equal ∨ op = .notEqual) (maps : scope.Maps member) (first : Value)
    (rest : List Value) :
    scope.IsAbout member (.chain connective op (.text member) first rest) := by
  have start := IsAbout.comparison isTest maps first
  unfold Predicate.chain
  generalize Predicate.test (.text member) op first = tree at start ⊢
  induction rest generalizing tree with
  | nil => exact start
  | cons value rest ih => exact ih _ (start.logical connective (.comparison isTest maps value))

/-- A membership test selects the rows that the disjunction of equations selects, except where
a missing datum is found by null.  Its negation selects those that the conjunction of
inequalities selects, except that it selects none once there is a null among the values. -/
theorem membership_agrees_with_comparisons {path : List String} (first : Value)
    (rest : List Value) (given : path ≠ [])
    (written : scope.column (.text member) = .ok (pathText scope.dialect path))
    (parameters : Parameters) (database : Database) (row : database.Row) :
    ∃ inside equal outside different,
      scope.HasTruth (.membership (.member (.text member)) (first :: rest))
        parameters database row inside ∧
      scope.HasTruth (.chain .disjunction .equal (.text member) first rest)
        parameters database row equal ∧
      scope.HasTruth (.negation (.membership (.member (.text member)) (first :: rest)))
        parameters database row outside ∧
      scope.HasTruth (.chain .conjunction .notEqual (.text member) first rest)
        parameters database row different ∧
      (inside = .yes ↔ equal = .yes ∧
        ¬(.null ∈ first :: rest ∧ row (pathName path) = none)) ∧
      (outside = .yes ↔ different = .yes ∧ .null ∉ first :: rest) := by
  have maps := maps_of_column written
  have isColumn := scope.columnName_withColumn member (pathName path)
  obtain ⟨inside, insideMeans, insideHolds⟩ :=
    (IsAbout.membership maps (first :: rest)).hasTruth given written parameters database row
  obtain ⟨equal, equalMeans, equalHolds⟩ :=
    (IsAbout.chain .disjunction (.inl rfl) maps first rest).hasTruth given written parameters
      database row
  obtain ⟨outside, outsideMeans, outsideHolds⟩ :=
    (IsAbout.nonmembership maps (first :: rest)).hasTruth given written parameters database row
  obtain ⟨different, differentMeans, differentHolds⟩ :=
    (IsAbout.chain .conjunction (.inr rfl) maps first rest).hasTruth given written parameters
      database row
  refine ⟨inside, equal, outside, different, insideHolds, equalHolds, outsideHolds,
    differentHolds, ?_, ?_⟩
  · obtain ⟨_, same, equalYes⟩ := Predicate.truth_equations row isColumn first rest
    obtain rfl := Option.some.inj (equalMeans.symm.trans same)
    rw [Predicate.truth_membership, isColumn] at insideMeans
    obtain rfl := Option.some.inj insideMeans
    rw [equalYes]
    exact Database.belongs_iff_tests
  · obtain ⟨_, same, differentYes⟩ := Predicate.truth_inequalities row isColumn first rest
    obtain rfl := Option.some.inj (differentMeans.symm.trans same)
    rw [Predicate.truth_nonmembership, isColumn] at outsideMeans
    obtain rfl := Option.some.inj outsideMeans
    rw [differentYes]
    exact Truth.negated_eq_yes.trans Database.belongs_no_iff_tests

theorem qualified_membership_agrees :
    let scope : Scope := { dialect := ⟨.sqlServer, .atSign⟩, qualifier := some "dbo.Person" }
    scope.column (.text "Age") = .ok (pathText scope.dialect ["dbo", "Person", "Age"]) ∧
      ∀ row : Database.wholeNumbers.Row, ∃ inside equal outside different,
        scope.HasTruth (.membership (.member (.text "Age")) [.int 1, .int 3])
          {} .wholeNumbers row inside ∧
        scope.HasTruth (.chain .disjunction .equal (.text "Age") (.int 1) [.int 3])
          {} .wholeNumbers row equal ∧
        scope.HasTruth (.negation (.membership (.member (.text "Age")) [.int 1, .int 3]))
          {} .wholeNumbers row outside ∧
        scope.HasTruth (.chain .conjunction .notEqual (.text "Age") (.int 1) [.int 3])
          {} .wholeNumbers row different ∧
        (inside = .yes ↔ equal = .yes) ∧ (outside = .yes ↔ different = .yes) := by
  intro scope
  have written : scope.column (.text "Age") =
      .ok (pathText scope.dialect ["dbo", "Person", "Age"]) :=
    congrArg Except.ok (by decide +kernel)
  have noNull : Value.null ∉ [.int 1, .int 3] := by simp
  refine ⟨written, fun row => ?_⟩
  obtain ⟨inside, equal, outside, different, insideHolds, equalHolds, outsideHolds,
      differentHolds, agree, agreeNot⟩ :=
    membership_agrees_with_comparisons (.int 1) [.int 3] (by decide) written {} .wholeNumbers row
  exact ⟨inside, equal, outside, different, insideHolds, equalHolds, outsideHolds, differentHolds,
    by simpa [noNull] using agree, by simpa [noNull] using agreeNot⟩

/-- A null among the values hides a row that differs from all of them. -/
theorem null_outside_hides_row :
    let scope : Scope := { dialect := ⟨.sqlite, .colon⟩ }
    let row : Database.wholeNumbers.Row := fun _ => some (2 : Int)
    ¬scope.HasTruth (.negation (.membership (.member (.text "Age")) [.int 1, .null]))
        {} .wholeNumbers row .yes ∧
      scope.HasTruth (.chain .conjunction .notEqual (.text "Age") (.int 1) [.null])
        {} .wholeNumbers row .yes := by
  intro scope row
  have written : scope.column (.text "Age") = .ok (pathText scope.dialect ["Age"]) :=
    congrArg Except.ok (by decide +kernel)
  have maps := maps_of_column written
  have isColumn := scope.columnName_withColumn "Age" (pathName ["Age"])
  obtain ⟨outside, outsideMeans, outsideHolds⟩ :=
    (IsAbout.nonmembership maps [.int 1, .null]).hasTruth (by decide) written {} .wholeNumbers row
  obtain ⟨different, differentMeans, differentHolds⟩ :=
    (IsAbout.chain .conjunction (.inr rfl) maps (.int 1) [.null]).hasTruth (by decide) written {}
      .wholeNumbers row
  rw [Predicate.truth_nonmembership, isColumn] at outsideMeans
  rw [Predicate.truth_chain isColumn] at differentMeans
  obtain rfl : outside = .unknown := Option.some.inj (outsideMeans.symm.trans (by decide +kernel))
  obtain rfl : different = .yes := Option.some.inj (differentMeans.symm.trans (by decide +kernel))
  refine ⟨fun selected => ?_, differentHolds⟩
  cases outsideHolds.unique selected

end Scope

end EntitySql
