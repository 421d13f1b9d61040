import EntitySql.Proofs.Dialect.Identifier
import EntitySql.Proofs.Predicate.Leaf
import EntitySql.Proofs.Predicate.Meaning
import EntitySql.Proofs.Sql.Parser

/-!
# Rendered predicates keep their meaning

The text of a predicate is the text of a condition that is true of the same rows.
The condition is read back from the text, so trees with the same text and the same
parameters mean the same.
-/

namespace EntitySql

open Sql (Truth Database Condition Operand)

namespace Scope

variable {scope : Scope} {parameters reached : Parameters} {text : String}
variable {name value : Value}

/-! ## Columns -/

/-- Columns are not rendered behind a table. -/
def Unqualified (scope : Scope) : Prop := scope.qualifier.any (!·.isEmpty) = false

/-- The column of a member is given, and not quoted already. -/
def Plain (scope : Scope) (name : Value) : Prop :=
  ∀ stored, scope.storedName name = .ok stored → stored.isGiven = true ∧
    ∀ content, stored = .text content → scope.dialect.isDelimited content = false

theorem Unqualified.columnText (unqualified : scope.Unqualified) (column : String) :
    scope.dialect.columnText scope.qualifier column = scope.dialect.identifier column := by
  unfold Dialect.columnText
  cases qualifier : scope.qualifier with
  | none => rfl
  | some table =>
      have empty : table.isEmpty = true := by simpa [Unqualified, qualifier] using unqualified
      simp [empty]

theorem enclosed_of_identifierOfOther {dialect : Dialect} {rendered : Value}
    (given : name.isGiven = true) (accepted : dialect.identifierOfOther name = .ok rendered) :
    ∃ content, rendered = .text (dialect.delimiters.enclose content) := by
  unfold Dialect.identifierOfOther at accepted
  rw [given] at accepted
  simp only [Bool.not_true, Bool.false_eq_true, if_false] at accepted
  split at accepted
  · cases accepted
  · rename_i item _ _ _
    cases folded : Dialect.foldItem item with
    | error fault =>
        rw [folded] at accepted
        cases accepted
    | ok content =>
        rw [folded] at accepted
        cases accepted
        exact ⟨content, rfl⟩
  · split at accepted <;> cases accepted

theorem enclosed_of_plainText {dialect : Dialect} (given : name.isGiven = true)
    (accepted : (dialect.identifierOfOther name).map Value.plainText = .ok text) :
    ∃ content, text = dialect.delimiters.enclose content := by
  cases rendering : dialect.identifierOfOther name with
  | error fault =>
      rw [rendering] at accepted
      cases accepted
  | ok rendered =>
      obtain ⟨content, rfl⟩ := enclosed_of_identifierOfOther given rendering
      rw [rendering] at accepted
      cases accepted
      exact ⟨content, by rw [Value.plainText]⟩

/-- The column of a member is rendered as one quoted identifier. -/
def Quotes (scope : Scope) (name : Value) : Prop :=
  ∀ text, scope.column name = .ok text →
    ∃ content, text = scope.dialect.delimiters.enclose content

theorem Plain.quotes (plain : scope.Plain name) (unqualified : scope.Unqualified) :
    scope.Quotes name := by
  intro text accepted
  cases name with
  | text member =>
      simp only [Scope.column] at accepted
      cases stored : scope.columnOf member with
      | error fault =>
          rw [stored] at accepted
          cases accepted
      | ok column =>
          rw [stored] at accepted
          cases accepted
          obtain ⟨given, notQuoted⟩ := plain (.text column) (by
            rw [storedName, stored]
            rfl)
          have nonempty : column ≠ "" := by
            rintro rfl
            cases given
          refine ⟨scope.dialect.fold column, ?_⟩
          rw [unqualified.columnText]
          exact Dialect.identifier_of_not_delimited nonempty (notQuoted column rfl)
  | _ =>
      obtain ⟨given, _⟩ := plain _ rfl
      rw [Unqualified] at unqualified
      simp only [Scope.column, unqualified, Bool.false_eq_true, if_false, Dialect.identifierOf]
        at accepted
      exact enclosed_of_plainText given accepted

/-- The identifier denotes the column. -/
theorem Quotes.column (quotes : scope.Quotes name) (accepted : scope.column name = .ok text) :
    ∃ content, text = scope.dialect.delimiters.enclose content ∧
      scope.columnName name = some content := by
  obtain ⟨content, rfl⟩ := quotes text accepted
  exact ⟨content, rfl, by simp [columnName, accepted, Except.toOption]⟩

theorem readable_of_bindEach {values : List Value} {names : List String}
    (ran : Parameters.bindEach values parameters = (.ok names, reached)) :
    ∀ name ∈ names, (Operand.parameter name).Readable := by
  intro name isName
  obtain ⟨number, rfl⟩ := Parameters.generated_of_bindEach ran name isName
  exact ⟨Parameters.generatedName_ne_empty number, Parameters.isWord_generatedName number⟩

/-! ## Leaves -/

/-- A condition that stands for a tree: the tree is rendered as the text of the
condition, binding some parameters, and both have the same truth for every row. -/
structure StandsFor (scope : Scope) (truth : ∀ database : Database, database.Row → Option Truth)
    (parameters reached : Parameters) (text : String) (condition : Condition) : Prop where
  text_eq : text = condition.text scope.dialect
  readable : condition.Readable
  grows : ∃ more, reached.entries = parameters.entries ++ more
  truth_eq : ∀ database row later, ∃ value, truth database row = some value ∧
    condition.truth database (reached.entries ++ later) row = some value

theorem truth_of_given {oriented : Oriented} (notNull : oriented.constant ≠ .null)
    (database : Database) (row : database.Row) :
    oriented.truth scope database row =
      (scope.columnName oriented.member).map fun column =>
        database.compare oriented.op (row column) (database.ofValue oriented.constant) := by
  obtain ⟨name, op, value⟩ := oriented
  rw [Oriented.truth]
  cases scope.columnName name with
  | none => rfl
  | some column =>
      cases value with
      | null => exact absurd rfl notNull
      | _ => rfl

theorem compare_standsFor {oriented : Oriented} (quotes : scope.Quotes oriented.member)
    (accepted : scope.compare oriented parameters = (.ok text, reached)) :
    ∃ condition, scope.StandsFor (fun database row => oriented.truth scope database row)
      parameters reached text condition := by
  obtain ⟨column, bound, rendered, written, bindRan⟩ := compare_eq_ok.mp accepted
  obtain ⟨content, rfl, columnName_eq⟩ := quotes.column rendered
  obtain ⟨_, grows, found⟩ := Parameters.found_of_bindEach bindRan
  have readable := readable_of_bindEach bindRan
  obtain ⟨name, op, value⟩ := oriented
  cases written with
  | null isNull op_eq =>
      cases isNull
      cases op_eq
      refine ⟨.nullTest (.column content) false, rfl, trivial, grows, fun database row later => ?_⟩
      exact ⟨_, by rw [Oriented.truth, columnName_eq]; rfl, rfl⟩
  | given isNull op_eq =>
      cases isNull
      cases op_eq
      refine ⟨.nullTest (.column content) true, rfl, trivial, grows, fun database row later => ?_⟩
      exact ⟨_, by rw [Oriented.truth, columnName_eq]; rfl, rfl⟩
  | @compared parameter notNull =>
      refine ⟨.compare op (.column content) (.parameter parameter), rfl,
        ⟨trivial, readable parameter (by simp)⟩, grows, fun database row later => ?_⟩
      refine ⟨database.compare op (row content) (database.ofValue value), ?_, ?_⟩
      · rw [truth_of_given notNull, columnName_eq]
        rfl
      · have foundParameter := (List.cons.inj (found later)).1
        simp [Condition.truth, foundParameter]

theorem datum_parameters {database : Database} {row : database.Row} {bindings : Sql.Bindings}
    {names : List String} {values : List Value}
    (found : names.map (Association.find bindings) = values.map some) :
    (names.map Operand.parameter).mapM (·.datum database bindings row) =
      some (values.map database.ofValue) := by
  induction names generalizing values with
  | nil =>
      cases values with
      | nil => rfl
      | cons value rest => cases found
  | cons name names ih =>
      cases values with
      | nil => cases found
      | cons value rest =>
          simp only [List.map_cons, List.cons.injEq] at found
          rw [List.map_cons, List.mapM_cons, ih found.2]
          simp [found.1]

theorem belongs_standsFor (quotes : scope.Quotes name) (negative : Bool) (values : List Value)
    (accepted : scope.belongs negative (.member name) values parameters = (.ok text, reached)) :
    ∃ condition, scope.StandsFor
      (fun database row => (scope.columnName name).map fun column =>
        (database.belongs (row column) (values.map database.ofValue)).signed negative)
      parameters reached text condition := by
  obtain ⟨column, names, rendered, listed, bindRan⟩ := belongs_eq_ok.mp accepted
  obtain ⟨content, rfl, columnName_eq⟩ := quotes.column rendered
  obtain ⟨length_eq, grows, found⟩ := Parameters.found_of_bindEach bindRan
  cases listed with
  | never =>
      obtain rfl : values = [] := List.eq_nil_of_length_eq_zero length_eq.symm
      refine ⟨.compare .equal (.number 1) (.number (if negative then 1 else 0)), ?_,
        ⟨trivial, trivial⟩, grows, fun database row later => ?_⟩
      · cases negative <;> rfl
      · refine ⟨Truth.signed .no negative, by simp [columnName_eq, Database.belongs], ?_⟩
        simp only [Condition.truth, Operand.datum_number, Option.bind_eq_bind, Option.bind_some,
          Database.compare_number]
        cases negative <;> rfl
  | among given =>
      refine ⟨.membership (.column content) (names.map .parameter) negative, ?_,
        ⟨trivial, by simpa using given, ?_⟩, grows, fun database row later => ?_⟩
      · simp [Condition.text, Operand.text, Function.comp_def]
      · simpa using readable_of_bindEach bindRan
      · refine ⟨_, by rw [columnName_eq]; rfl, ?_⟩
        simp only [Condition.truth, Operand.datum_column, Option.bind_eq_bind, Option.bind_some]
        rw [datum_parameters (found later)]
        rfl

/-! ## Trees -/

/-- Two conditions joined by a connective. -/
def join (connective : Connective) (left right : Condition) : Condition :=
  match connective with
  | .conjunction => .both left right
  | .disjunction => .either left right

theorem StandsFor.join {middle : Parameters} {leftText rightText : String}
    {leftTruth rightTruth : ∀ database : Database, database.Row → Option Truth}
    {left right : Condition} (first : scope.StandsFor leftTruth parameters middle leftText left)
    (second : scope.StandsFor rightTruth middle reached rightText right)
    (connective : Connective) :
    scope.StandsFor
      (fun database row => do
        let left ← leftTruth database row
        let right ← rightTruth database row
        return match connective with
          | .conjunction => left.both right
          | .disjunction => left.either right)
      parameters reached
      ("(" ++ leftText ++ ") " ++ connective.token ++ " (" ++ rightText ++ ")")
      (join connective left right) where
  text_eq := by
    rw [first.text_eq, second.text_eq]
    apply String.toList_inj.mp
    cases connective <;> simp [Scope.join, Condition.text, Connective.token]
  readable := by
    cases connective <;> exact ⟨first.readable, second.readable⟩
  grows := by
    obtain ⟨more, middle_eq⟩ := first.grows
    obtain ⟨others, reached_eq⟩ := second.grows
    exact ⟨more ++ others, by rw [reached_eq, middle_eq, List.append_assoc]⟩
  truth_eq database row later := by
    obtain ⟨others, reached_eq⟩ := second.grows
    -- what the right side binds comes later for the left side
    obtain ⟨leftValue, leftMeans, leftHolds⟩ := first.truth_eq database row (others ++ later)
    obtain ⟨rightValue, rightMeans, rightHolds⟩ := second.truth_eq database row later
    rw [← List.append_assoc, ← reached_eq] at leftHolds
    refine ⟨_, by rw [leftMeans, rightMeans]; rfl, ?_⟩
    cases connective <;> simp [Scope.join, Condition.truth, leftHolds, rightHolds]

theorem renderTree_standsFor (tree : Predicate)
    (quotes : ∀ name ∈ tree.memberNames, scope.Quotes name)
    (accepted : scope.renderTree tree parameters = (.ok text, reached)) :
    ∃ condition, scope.StandsFor (fun database row => tree.truth scope database row)
      parameters reached text condition := by
  induction tree generalizing parameters reached text with
  | logical connective left right leftStands rightStands =>
      obtain ⟨leftText, middle, leftRan, ran⟩ := Action.bind_eq_ok.mp accepted
      obtain ⟨rightText, last, rightRan, ran⟩ := Action.bind_eq_ok.mp ran
      obtain ⟨rfl, rfl⟩ := Action.answer_eq_ok.mp ran
      obtain ⟨first, firstStands⟩ :=
        leftStands (fun name member => quotes name (List.mem_append_left _ member)) leftRan
      obtain ⟨second, secondStands⟩ :=
        rightStands (fun name member => quotes name (List.mem_append_right _ member)) rightRan
      exact ⟨join connective first second, firstStands.join secondStands connective⟩
  | comparison op left right =>
      obtain ⟨oriented, isOriented, ran⟩ := Action.ofExcept_bind_eq_ok.mp accepted
      have quotesMember : scope.Quotes oriented.member :=
        quotes _ (Predicate.member_mem_memberNames isOriented)
      obtain ⟨condition, stands⟩ := compare_standsFor quotesMember ran
      refine ⟨condition, stands.text_eq, stands.readable, stands.grows, ?_⟩
      intro database row later
      rw [Predicate.truth_comparison isOriented]
      exact stands.truth_eq database row later
  | membership tested values =>
      cases tested with
      | member name =>
          simp only [Predicate.truth_membership]
          exact belongs_standsFor (quotes name (by simp [Predicate.memberNames])) false values
            accepted
      | _ => exact absurd accepted Action.fail_ne_ok
  | negation operand =>
      cases operand with
      | membership tested values =>
          cases tested with
          | member name =>
              simp only [Predicate.truth_nonmembership]
              exact belongs_standsFor (quotes name (by simp [Predicate.memberNames])) true values
                accepted
          | _ => exact absurd accepted Action.fail_ne_ok
      | _ => exact absurd accepted Action.fail_ne_ok
  | _ => exact absurd accepted Action.fail_ne_ok

/-- Rendering reads the dictionaries in a predicate first. -/
theorem render_expand (predicate : Predicate)
    (accepted : scope.render predicate parameters = (.ok text, reached)) :
    ∃ tree, predicate.expand = .ok tree ∧
      scope.renderTree tree parameters = (.ok text, reached) := by
  induction predicate generalizing parameters reached text with
  | logical connective left right leftExpands rightExpands =>
      obtain ⟨leftText, middle, leftRan, ran⟩ := Action.bind_eq_ok.mp accepted
      obtain ⟨rightText, last, rightRan, ran⟩ := Action.bind_eq_ok.mp ran
      obtain ⟨first, firstExpands, firstRan⟩ := leftExpands leftRan
      obtain ⟨second, secondExpands, secondRan⟩ := rightExpands rightRan
      refine ⟨.logical connective first second, ?_, ?_⟩
      · rw [Predicate.expand, firstExpands, secondExpands]
        rfl
      · exact Action.bind_eq_ok.mpr ⟨_, _, firstRan,
          Action.bind_eq_ok.mpr ⟨_, _, secondRan, ran⟩⟩
  | raw value =>
      cases value with
      | dict entries =>
          obtain ⟨tree, isTree, ran⟩ := Action.ofExcept_bind_eq_ok.mp accepted
          exact ⟨tree, isTree, ran⟩
      | _ => exact absurd accepted Action.fail_ne_ok
  | negation operand =>
      refine ⟨.negation operand, rfl, ?_⟩
      cases operand with
      | membership tested values => exact accepted
      | _ => exact absurd accepted Action.fail_ne_ok
  | comparison op left right => exact ⟨_, rfl, accepted⟩
  | membership tested values => exact ⟨_, rfl, accepted⟩
  | member name => exact absurd accepted Action.fail_ne_ok
  | constant value => exact absurd accepted Action.fail_ne_ok

/-- What a predicate stands for is rendered like the predicate itself. -/
theorem render_of_expand {tree : Predicate} (predicate : Predicate)
    (expands : predicate.expand = .ok tree)
    (accepted : scope.renderTree tree parameters = (.ok text, reached)) :
    scope.render predicate parameters = (.ok text, reached) := by
  induction predicate generalizing parameters reached text tree with
  | logical connective left right leftRenders rightRenders =>
      obtain ⟨first, firstExpands, expands⟩ := Fault.bind_eq_ok.mp expands
      obtain ⟨second, secondExpands, expands⟩ := Fault.bind_eq_ok.mp expands
      cases expands
      obtain ⟨leftText, middle, leftRan, ran⟩ := Action.bind_eq_ok.mp accepted
      obtain ⟨rightText, last, rightRan, ran⟩ := Action.bind_eq_ok.mp ran
      exact Action.bind_eq_ok.mpr ⟨_, _, leftRenders firstExpands leftRan,
        Action.bind_eq_ok.mpr ⟨_, _, rightRenders secondExpands rightRan, ran⟩⟩
  | raw value =>
      cases value with
      | dict entries => exact Action.ofExcept_bind_eq_ok.mpr ⟨tree, expands, accepted⟩
      | _ =>
          cases expands
          exact absurd accepted Action.fail_ne_ok
  | negation operand =>
      cases expands
      cases operand with
      | membership tested values => exact accepted
      | _ => exact absurd accepted Action.fail_ne_ok
  | _ =>
      cases expands
      exact accepted

/-- A predicate is rendered outside of joins, and all columns in it are plain. -/
structure RendersPlainly (scope : Scope) (predicate : Predicate) (parameters : Parameters)
    (text : String) (reached : Parameters) : Prop where
  accepted : scope.render predicate parameters = (.ok text, reached)
  unqualified : scope.Unqualified
  plain : ∀ tree, predicate.expand = .ok tree → ∀ name ∈ tree.memberNames, scope.Plain name

/-- The text of a predicate with quoted columns is read as a condition with its truth. -/
theorem read_of_render {predicate : Predicate}
    (accepted : scope.render predicate parameters = (.ok text, reached))
    (quotes : ∀ tree, predicate.expand = .ok tree → ∀ name ∈ tree.memberNames, scope.Quotes name) :
    ∃ condition, Sql.read scope.dialect text = some condition ∧
      ∀ database row later, ∃ truth, predicate.meaning scope database row = some truth ∧
        condition.truth database (reached.entries ++ later) row = some truth := by
  obtain ⟨tree, expands, accepted⟩ := render_expand predicate accepted
  obtain ⟨condition, stands⟩ := renderTree_standsFor tree (quotes tree expands) accepted
  refine ⟨condition, ?_, fun database row later => ?_⟩
  · rw [stands.text_eq, Sql.read_text scope.dialect stands.readable]
  · rw [Predicate.meaning, expands]
    exact stands.truth_eq database row later

theorem RendersPlainly.read {predicate : Predicate}
    (rendered : scope.RendersPlainly predicate parameters text reached) :
    ∃ condition, Sql.read scope.dialect text = some condition ∧
      ∀ database row later, ∃ truth, predicate.meaning scope database row = some truth ∧
        condition.truth database (reached.entries ++ later) row = some truth :=
  read_of_render rendered.accepted fun tree expands name member =>
    (rendered.plain tree expands name member).quotes rendered.unqualified

/-- The text of a predicate is read as a condition that has the truth of the
predicate for every row, with the parameters of the predicate bound, whatever else
is.  So predicates with the same text and the same parameters mean the same. -/
theorem render_keeps_meaning (scope : Scope) (predicate : Predicate)
    (parameters reached : Parameters) (text : String)
    (rendered : scope.RendersPlainly predicate parameters text reached) :
    (∃ condition, Sql.read scope.dialect text = some condition ∧
      ∀ database row later, ∃ truth, predicate.meaning scope database row = some truth ∧
        condition.truth database (reached.entries ++ later) row = some truth) ∧
    ∀ (other : Scope) (another : Predicate) (before after : Parameters),
      other.dialect = scope.dialect → other.RendersPlainly another before text after →
        after.entries = reached.entries → ∀ database row,
          another.meaning other database row = predicate.meaning scope database row := by
  refine ⟨rendered.read, ?_⟩
  intro other another before after sameDialect otherRendered sameParameters database row
  obtain ⟨condition, isRead, holds⟩ := rendered.read
  obtain ⟨again, isReadAgain, holdsAgain⟩ := otherRendered.read
  rw [sameDialect, isRead, Option.some.injEq] at isReadAgain
  subst isReadAgain
  obtain ⟨truth, means, holds⟩ := holds database row []
  obtain ⟨otherTruth, meansAgain, holdsAgain⟩ := holdsAgain database row []
  rw [sameParameters, holds, Option.some.injEq] at holdsAgain
  rw [means, meansAgain, holdsAgain]

/-- A condition with a constant on the left, a dictionary, and a bracket in a name. -/
def bracketed : Predicate :=
  .logical .disjunction (.comparison .less (.constant (.int 3)) (.member (.text "a]")))
    (.raw (.dict [(.text "NOT_IN",
      .list [.dict [(.text "col", .text "b")], .list [.int 1, .null]])]))

theorem bracketed_expand :
    bracketed.expand = .ok (.logical .disjunction
      (.comparison .less (.constant (.int 3)) (.member (.text "a]")))
      (.negation (.membership (.member (.text "b")) [.int 1, .null]))) := by
  rfl

theorem bracketed_render :
    (Scope.mk ⟨.sqlServer, .atSign⟩ none none).render bracketed {} =
      (.ok "([a]]] > @p0) OR ([b] NOT IN (@p1, @p2))",
        { entries := [("p0", .int 3), ("p1", .int 1), ("p2", .null)], counter := 3 }) := by
  rfl

theorem bracketed_means :
    bracketed.meaning (Scope.mk ⟨.sqlServer, .atSign⟩ none none) .wholeNumbers
      (fun _ => some (5 : Int)) = some .yes := by
  decide +kernel

/-- It is true of a row in which all numbers are greater than the constant. -/
theorem bracketed_keeps_meaning :
    let scope : Scope := { dialect := ⟨.sqlServer, .atSign⟩ }
    ∃ text reached, scope.RendersPlainly bracketed {} text reached ∧
      bracketed.meaning scope .wholeNumbers (fun _ => some (5 : Int)) = some .yes ∧
      ∃ condition, Sql.read scope.dialect text = some condition ∧
        condition.truth .wholeNumbers reached.entries (fun _ => some (5 : Int)) = some .yes := by
  intro scope
  have plain : ∀ name ∈ [Value.text "a]", .text "b"], scope.Plain name := by
    intro name member
    rcases List.mem_pair.mp member with rfl | rfl <;>
      exact fun stored isStored => by
        cases isStored
        exact ⟨rfl, fun content same => by cases same; decide⟩
  obtain ⟨text, reached, accepted⟩ :
      ∃ text reached, scope.render bracketed {} = (.ok text, reached) :=
    ⟨_, _, bracketed_render⟩
  have rendered : scope.RendersPlainly bracketed {} text reached := by
    refine ⟨accepted, rfl, fun tree isTree => ?_⟩
    rw [bracketed_expand, Except.ok.injEq] at isTree
    subst isTree
    exact plain
  obtain ⟨⟨condition, isRead, holds⟩, _⟩ := render_keeps_meaning scope bracketed {} reached text rendered
  obtain ⟨truth, meansTruth, holds⟩ := holds .wholeNumbers (fun _ => some (5 : Int)) []
  rw [bracketed_means, Option.some.injEq] at meansTruth
  rw [← meansTruth, List.append_nil] at holds
  exact ⟨text, reached, rendered, bracketed_means, condition, isRead, holds⟩

end Scope

end EntitySql
