import EntitySql.Condition
import EntitySql.Proofs.Parameters.Binding

/-!
# Leaves of predicates

The ways in which a comparison and a membership test are written, with what they bind.
A leaf that is rendered is written in one of them, and whatever is written in one of
them is rendered like this.
-/

namespace EntitySql

/-- The text of a comparison, and what is bound for it: there are tests for null, and any
other constant has a parameter. -/
inductive Oriented.Written (dialect : Dialect) (column : String) (oriented : Oriented) :
    String → List (String × Value) → Prop where
  | null (isNull : oriented.constant = .null) (op_eq : oriented.op = .equal) :
      Written dialect column oriented (column ++ " IS NULL") []
  | given (isNull : oriented.constant = .null) (op_eq : oriented.op = .notEqual) :
      Written dialect column oriented (column ++ " IS NOT NULL") []
  | compared {name : String} (notNull : oriented.constant ≠ .null) :
      Written dialect column oriented
        (column ++ " " ++ oriented.op.token ++ " " ++ dialect.placeholder name)
        [(name, oriented.constant)]

theorem Oriented.Written.values_eq {dialect : Dialect} {column text : String} {oriented : Oriented}
    {bound : List (String × Value)} (written : oriented.Written dialect column text bound) :
    bound.map (·.2) = if oriented.constant.isNull then [] else [oriented.constant] := by
  cases written with
  | null isNull _ => rw [isNull]; rfl
  | given isNull _ => rw [isNull]; rfl
  | compared notNull =>
      have given : oriented.constant.isNull = false := by
        cases constant : oriented.constant with
        | null => exact absurd constant notNull
        | _ => rfl
      rw [given]
      rfl

/-- The text of a test whether a column is one of several values, and the names of their
parameters.  Nothing is one of no values. -/
inductive MembershipWritten (dialect : Dialect) (column : String) (negated : Bool) :
    String → List String → Prop where
  | never : MembershipWritten dialect column negated (if negated then "1 = 1" else "1 = 0") []
  | among {names : List String} (given : names ≠ []) :
      MembershipWritten dialect column negated
        (column ++ (if negated then " NOT IN (" else " IN (") ++
          ", ".intercalate (names.map dialect.placeholder) ++ ")") names

namespace Parameters

variable {parameters reached : Parameters} {name : String} {names : List String} {value : Value}

theorem bindEach_singleton :
    bindEach [value] parameters = (.ok [name], reached) ↔
      bindFresh value parameters = (.ok name, reached) := by
  constructor
  · intro ran
    obtain ⟨_, _, freshRan, ran⟩ := Action.bind_eq_ok.mp ran
    cases ran
    exact freshRan
  · exact fun freshRan => Action.bind_eq_ok.mpr ⟨_, _, freshRan, rfl⟩

/-- Values that are bound are found under their names, now and later. -/
theorem found_of_bindEach {values : List Value}
    (ran : bindEach values parameters = (.ok names, reached)) :
    names.length = values.length ∧ (∃ more, reached.entries = parameters.entries ++ more) ∧
      ∀ later, names.map (Association.find (reached.entries ++ later)) = values.map some := by
  induction values generalizing parameters names with
  | nil =>
      cases ran
      exact ⟨rfl, ⟨[], by simp⟩, by simp⟩
  | cons value rest ih =>
      obtain ⟨first, middle, firstRan, ran⟩ := Action.bind_eq_ok.mp ran
      obtain ⟨others, last, restRan, answered⟩ := Action.bind_eq_ok.mp ran
      obtain ⟨rfl, rfl⟩ := Action.answer_eq_ok.mp answered
      obtain ⟨number, _, again, middle_eq, free⟩ := bindFresh_run value parameters
      cases firstRan.symm.trans again
      obtain ⟨length_eq, ⟨more, reached_eq⟩, found⟩ := ih restRan
      refine ⟨by simp [length_eq], ⟨(generatedName number, value) :: more, ?_⟩, fun later => ?_⟩
      · rw [reached_eq, middle_eq, List.append_assoc, List.singleton_append]
      · rw [List.map_cons, List.map_cons, found later]
        simp [reached_eq, middle_eq, free, Association.find_cons]

end Parameters

namespace Scope

variable {scope : Scope} {parameters reached : Parameters} {text : String}
variable {name value : Value} {names : List String} {values : List Value}

theorem compare_of_given (op : Comparator) (notNull : value ≠ .null) :
    scope.compare ⟨name, op, value⟩ = (do
      let column ← Action.ofExcept (scope.column name)
      let placeholder ← scope.bind value
      return column ++ " " ++ op.token ++ " " ++ placeholder) := by
  cases value with
  | null => exact absurd rfl notNull
  | _ => rfl

/-- What is written for a comparison and bound for it. -/
theorem compare_eq_ok {oriented : Oriented} :
    scope.compare oriented parameters = (.ok text, reached) ↔
      ∃ column bound, scope.column oriented.member = .ok column ∧
        oriented.Written scope.dialect column text bound ∧
        Parameters.bindEach (bound.map (·.2)) parameters = (.ok (bound.map (·.1)), reached) := by
  obtain ⟨name, op, value⟩ := oriented
  constructor
  · intro accepted
    by_cases isNull : value = .null
    · subst isNull
      obtain ⟨column, rendered, ran⟩ := Action.ofExcept_bind_eq_ok.mp accepted
      -- only equality and its negation have a null test
      cases op with
      | equal =>
          obtain ⟨rfl, rfl⟩ := Action.answer_eq_ok.mp ran
          exact ⟨column, [], rendered, .null rfl rfl, rfl⟩
      | notEqual =>
          obtain ⟨rfl, rfl⟩ := Action.answer_eq_ok.mp ran
          exact ⟨column, [], rendered, .given rfl rfl, rfl⟩
      | _ => exact absurd ran Action.fail_ne_ok
    · rw [compare_of_given op isNull] at accepted
      obtain ⟨column, rendered, ran⟩ := Action.ofExcept_bind_eq_ok.mp accepted
      obtain ⟨placeholder, _, bindRan, ran⟩ := Action.bind_eq_ok.mp ran
      obtain ⟨parameter, _, freshRan, placed⟩ := Action.bind_eq_ok.mp bindRan
      obtain ⟨rfl, rfl⟩ := Action.answer_eq_ok.mp placed
      obtain ⟨rfl, rfl⟩ := Action.answer_eq_ok.mp ran
      exact ⟨column, [(parameter, value)], rendered, .compared isNull,
        Parameters.bindEach_singleton.mpr freshRan⟩
  · rintro ⟨column, bound, rendered, written, bindRan⟩
    cases written with
    | null isNull op_eq =>
        cases isNull
        cases op_eq
        cases bindRan
        exact Action.ofExcept_bind_eq_ok.mpr ⟨column, rendered, rfl⟩
    | given isNull op_eq =>
        cases isNull
        cases op_eq
        cases bindRan
        exact Action.ofExcept_bind_eq_ok.mpr ⟨column, rendered, rfl⟩
    | compared notNull =>
        have placed : scope.bind value parameters = (.ok _, reached) :=
          Action.bind_of_ok (Parameters.bindEach_singleton.mp bindRan)
        rw [compare_of_given op notNull]
        exact Action.ofExcept_bind_eq_ok.mpr ⟨column, rendered, Action.bind_of_ok placed⟩

theorem bindAll_eq (ran : Parameters.bindEach values parameters = (.ok names, reached)) :
    scope.bindAll values parameters = (.ok (names.map scope.dialect.placeholder), reached) := by
  induction values generalizing parameters names with
  | nil =>
      cases ran
      rfl
  | cons value rest ih =>
      obtain ⟨name, bound, firstRan, ran⟩ := Action.bind_eq_ok.mp ran
      obtain ⟨others, last, restRan, answered⟩ := Action.bind_eq_ok.mp ran
      cases answered
      have placed : scope.bind value parameters = (.ok (scope.dialect.placeholder name), bound) :=
        Action.bind_of_ok firstRan
      exact Action.bind_eq_ok.mpr ⟨_, _, placed, Action.bind_eq_ok.mpr ⟨_, _, ih restRan, rfl⟩⟩

/-- What is written for a membership test and bound for it. -/
theorem belongs_eq_ok {negated : Bool} :
    scope.belongs negated (.member name) values parameters = (.ok text, reached) ↔
      ∃ column names, scope.column name = .ok column ∧
        MembershipWritten scope.dialect column negated text names ∧
        Parameters.bindEach values parameters = (.ok names, reached) := by
  constructor
  · intro accepted
    obtain ⟨_, isMember, ran⟩ := Action.ofExcept_bind_eq_ok.mp accepted
    cases isMember
    obtain ⟨column, rendered, ran⟩ := Action.ofExcept_bind_eq_ok.mp ran
    cases values with
    | nil =>
        obtain ⟨rfl, rfl⟩ := Action.answer_eq_ok.mp ran
        exact ⟨column, [], rendered, .never, rfl⟩
    | cons value rest =>
        obtain ⟨names, last, bindRan, length_eq, _⟩ :=
          Parameters.bindEach_run (value :: rest) parameters
        simp only [List.isEmpty_cons, Bool.false_eq_true, if_false] at ran
        rw [Action.bind_of_ok (bindAll_eq bindRan)] at ran
        obtain ⟨rfl, rfl⟩ := Action.answer_eq_ok.mp ran
        exact ⟨column, names, rendered, .among (List.ne_nil_of_length_eq_add_one length_eq), bindRan⟩
  · rintro ⟨column, names, rendered, listed, bindRan⟩
    have length_eq := (Parameters.found_of_bindEach bindRan).1
    refine Action.ofExcept_bind_eq_ok.mpr ⟨name, rfl,
      Action.ofExcept_bind_eq_ok.mpr ⟨column, rendered, ?_⟩⟩
    cases listed with
    | never =>
        obtain rfl : values = [] := List.eq_nil_of_length_eq_zero length_eq.symm
        cases bindRan
        rfl
    | among given =>
        have someValues : values.isEmpty = false := by
          rw [List.isEmpty_eq_false_iff, ← List.length_pos_iff, ← length_eq]
          exact List.length_pos_iff.mpr given
        rw [someValues, if_neg Bool.false_ne_true]
        exact Action.bind_of_ok (bindAll_eq bindRan)

end Scope

end EntitySql
